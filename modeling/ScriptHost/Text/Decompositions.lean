import Std.Data.HashMap
import ScriptHost.Text.Ranges

/-!
# Decompositions

What characters are made of, and how the marks that follow a character are ordered.

* `Decomposition.canonical`, `Decomposition.full`: the code points that one is made of in the end;
* `Decomposition.composed?`: the code point that two others make up;
* `Decomposition.markClass`: the class by which marks are ordered.

Korean syllables are computed and all else stands in tables.
-/

namespace ScriptHost

namespace Decomposition

/-! ### Tables -/

/-- What characters are made of at first sight: how many code points are left out, and of how many
others the next one is made, with these. -/
def firstText : List String :=
  ["c02Y1u002Y1u102Y1u202Y1u302Y1u802Y1uA12Y3v702Y5u002Y5u102Y5u202Y5u802Y9u002Y9u102Y9u202Y9u812Y",
   "Eu302YFu002YFu102YFu202YFu302YFu822YLu002YLu102YLu202YLu802YPu122Z1u002Z1u102Z1u202Z1u302Z1u8",
   "02Z1uA12Z3v702Z5u002Z5u102Z5u202Z5u802Z9u002Z9u102Z9u202Z9u812ZEu302ZFu002ZFu102ZFu202ZFu302Z",
   "Fu822ZLu002ZLu102ZLu202ZLu802ZPu112ZPu802Y1u402Z1u402Y1u602Z1u602Y1v802Z1v802Y3u102Z3u102Y3u2",
   "02Z3u202Y3u702Z3u702Y3uC02Z3uC02Y4uC02Z4uC22Y5u402Z5u402Y5u602Z5u602Y5u702Z5u702Y5v802Z5v802Y",
   "5uC02Z5uC02Y7u202Z7u202Y7u602Z7u602Y7u702Z7u702Y7v702Z7v702Y8u202Z8u222Y9u302Z9u302Y9u402Z9u4",
   "02Y9u602Z9u602Y9v802Z9v802Y9u732YAu202ZAu202YBv702ZBv712YCu102ZCu102YCv702ZCv702YCuC02ZCuC42Y",
   "Eu102ZEu102YEv702ZEv702YEuC02ZEuC32YFu402ZFu402YFu602ZFu602YFuB02ZFuB22YIu102ZIu102YIv702ZIv7",
   "02YIuC02ZIuC02YJu102ZJu102YJu202ZJu202YJv702ZJv702YJuC02ZJuC02YKv702ZKv702YKuC02ZKuC22YLu302Z",
   "Lu302YLu402ZLu402YLu602ZLu602YLuA02ZLuA02YLuB02ZLuB02YLv802ZLv802YNu202ZNu202YPu202ZPu202YPu8",
   "02YQu102ZQu102YQu702ZQu702YQuC02ZQuCX12YFuR02ZFuRD2YLuR02ZLuRS2Y1uC02Z1uC02Y9uC02Z9uC02YFuC02",
   "ZFuC02YLuC02ZLuC02cSu402dSu402cSu102dSu102cSuC02dSuC02cSu002dSu012c4u402d4u402n6u402n7u402c6u",
   "402d6u422Y7uC02Z7uC02YBuC02ZBuC02YFv802ZFv802lAu402lBu402jNuC02qIuC02ZAuC32Y7u102Z7u122YEu002",
   "ZEu002c5u102d5u102c6u102d6u102cOu102dOu102Y1uF02Z1uF02Y1uH02Z1uH02Y5uF02Z5uF02Y5uH02Z5uH02Y9u",
   "F02Z9uF02Y9uH02Z9uH02YFuF02ZFuF02YFuH02ZFuH02YIuF02ZIuF02YIuH02ZIuH02YLuF02ZLuF02YLuH02ZLuH02",
   "YJv602ZJv602YKv602ZKv622Y8uC02Z8uC62Y1u702Z1u702Y5v702Z5v702cMu402dMu402cLu402dLu402YFu702ZFu",
   "702nEu402nFu402YPu402ZPu4eC1u001u111uJ02u8u1XF1rP91XR62b8u102yHu101bN02yLu102yNu102yPu112yVu1",
   "12z5u102z9u102+Au1P2yPu802z5u802zHu102zLu102zNu102zPu102+Bu1P2zPu802+5u802zVu102+5u102+9u142+",
   "Iu102+Iu8XB2XWLu002XWLu812XWJu132XW6u842XWQu102XWOu002XX3u6A2XWOu6V2XXOu6M2XXLu002XXLu812XXJu",
   "132XYMu842XXQu102XXOu002XY3u6N2XZKuF02XZLuFY92XWMu602XXMu6D2XWGu602XXGu602XWGu802XXGu822XWLu6",
   "02XXLu622XcOu802XcPu802XWMu802XXMu802XWNu802XXNu822XWOu402XXOu402XWOu802XXOu802XWUu802XXUu822",
   "Xd8u802Xd9u802XXDu802XYDu802XX3u402XY3u402XX3u802XY3u802XX3uB02XY3uB02XX7u802XY7u822XXBu802XY",
   "Bu8f82Xn7XoJ02Xn7XoK02Xo8XoK02Xn7XoL02XoAXoKaP2XsLXoK12Xs1XoKG2XsIXoKoL2Yf8YfS72YfGYfS22YfJYf",
   "SX32YeLYfS02YeMYfS02YeNYfS02YeSYfS02Yf1YfS02Yf2YfS02YfBYfS02YfFYfSZB2Yk7YjU02Yk7YkNF2Yj1YjS02",
   "Yj2YjS12YjFYjSYJ2YnIYnS22YnOYnSX22YmMYnS02YmNYnS02YmSYnS22YnBYnSd92Yw7YwM22Yw7YvU02Yw7YwNF2Yv",
   "1YvS02Yv2YvSXM2YyIY+NXL2Y+6YzU02Y+7YzU02Y+6Y+NZR2ZY6ZYMZN2ZbVZcL62Zc6ZcL02Zc6ZcM12Zc6Zc202ZcA",
   "ZcLZU2Zg6ZfU02Zg7ZfU02Zg6ZgNaD2ZkPZkA12ZkPZkF02ZkSZkA02ZkPZkVh42Zw2ZzN92ZwCZzN42ZwHZzN42ZwMZz",
   "N42ZwRZzNC2Zw0ZzL92ZxHZxI12ZxHZxK02ZzIZy012ZzJZy082ZxHZy0H2ZyIZzN92ZySZzN42Zz1ZzN42Zz6ZzN42Zz",
   "BZzNC2ZyGZzLZC2aX5aXEYsV2cu5cvL12cu7cvL12cu9cvL12cuBcvL12cuDcvL32cuHcvLX82cvQcvL12cvScvL22cvU",
   "cvL02cvVcvL12cw2cvLrS2Y1v502Z1v502Y2u702Z2u702Y2v302Z2v302Y2vH02Z2vH02c7u102d7u102Y4u702Z4u70",
   "2Y4v302Z4v302Y4vH02Z4vH02Y4v702Z4v702Y4vD02Z4vD02eIu002eJu002eIu102eJu102Y5vD02Z5vD02Y5vG02Z5",
   "vG02n8u602n9u602Y6u702Z6u702Y7u402Z7u402Y8u702Z8u702Y8v302Z8v302Y8u802Z8u802Y8v702Z8v702Y8vE0",
   "2Z8vE02Y9vG02Z9vG02cFu102dFu102YBu102ZBu102YBv302ZBv302YBvH02ZBvH02YCv302ZCv302dnMu402dnNu402",
   "YCvH02ZCvH02YCvD02ZCvD02YDu102ZDu102YDu702ZDu702YDv302ZDv302YEu702ZEu702YEv302ZEv302YEvH02ZEv",
   "H02YEvD02ZEvD02cLu102dLu102cLu802dLu802gCu002gDu002gCu102gDu102YGu102ZGu102YGu702ZGu702YIu702",
   "ZIu702YIv302ZIv302doQu402doRu402YIvH02ZIvH02YJu702ZJu702YJv302ZJv302gQu702gRu702h0u702h1u702d",
   "p2u702dp3u702YKu702ZKu702YKv302ZKv302YKvH02ZKvH02YKvD02ZKvD02YLv402ZLv402YLvG02ZLvG02YLvD02ZL",
   "vD02h8u102h9u102hAu802hBu802YMu302ZMu302YMv302ZMv302YNu002ZNu002YNu102ZNu102YNu802ZNu802YNu70",
   "2ZNu702YNv302ZNv302YOu702ZOu702YOu802ZOu802YPu702ZPu702YQu202ZQu202YQv302ZQv302YQvH02ZQvH02Z8",
   "vH02ZKu802ZNuA02ZPuA12hVu742Y1v302Z1v302Y1u902Z1u902c2u102d2u102c2u002d2u002c2u902d2u902c2u30",
   "2d2u302dr0u202dr1u202e2u102e3u102e2u002e3u002e2u902e3u902e2u302e3u302dr0u602dr1u602Y5v302Z5v3",
   "02Y5u902Z5u902Y5u302Z5u302cAu102dAu102cAu002dAu002cAu902dAu902cAu302dAu302drOu202drPu202Y9u90",
   "2Z9u902Y9v302Z9v302YFv302ZFv302YFu902ZFu902cKu102dKu102cKu002dKu002cKu902dKu902cKu302dKu302ds",
   "Cu202dsDu202j0u102j1u102j0u002j1u002j0u902j1u902j0u302j1u302j0v302j1v302YLv302ZLv302YLu902ZLu",
   "902jFu102jGu102jFu002jGu002jFu902jGu902jFu302jGu302jFv302jGv302YPu002ZPu002YPv302ZPv302YPu902",
   "ZPu902YPu302ZPu362zHuJ02zHuK02du0u002du1u002du0u102du1u102du0w202du1w202yHuJ02yHuK02du8u002du",
   "9u002du8u102du9u102du8w202du9w202zLuJ02zLuK02duGu002duHu002duGu102duHu122yLuJ02yLuK02duOu002d",
   "uPu002duOu102duPu122zNuJ02zNuK02dv0u002dv1u002dv0u102dv1u102dv0w202dv1w202yNuJ02yNuK02dv8u002",
   "dv9u002dv8u102dv9u102dv8w202dv9w202zPuJ02zPuK02dvGu002dvHu002dvGu102dvHu102dvGw202dvHw202yPuJ",
   "02yPuK02dvOu002dvPu002dvOu102dvPu102dvOw202dvPw202zVuJ02zVuK02dw0u002dw1u002dw0u102dw1u122yVu",
   "J02yVuK02dw8u002dw9u002dw8u102dw9u122+5uJ02+5uK02dwGu002dwHu002dwGu102dwHu102dwGw202dwHw212z5",
   "uK12dwPu012dwPu112dwPw202+9uJ02+9uK02dx0u002dx1u002dx0u102dx1u102dx0w202dx1w202z9uJ02z9uK02dx",
   "8u002dx9u002dx8u102dx9u102dx8w202dx9w202zHu002zHu102zLu002zLu102zNu002zNu102zPu002zPu102zVu00",
   "2zVu102+5u002+5u102+9u002+9u122du0w502du1w502du2w502du3w502du4w502du5w502du6w502du7w502du8w50",
   "2du9w502duAw502duBw502duCw502duDw502duEw502duFw502dv0w502dv1w502dv2w502dv3w502dv4w502dv5w502d",
   "v6w502dv7w502dv8w502dv9w502dvAw502dvBw502dvCw502dvDw502dvEw502dvFw502dx0w502dx1w502dx2w502dx3",
   "w502dx4w502dx5w502dx6w502dx7w502dx8w502dx9w502dxAw502dxBw502dxCw502dxDw502dxEw502dxFw502zHu60",
   "2zHu402dxGw502zHw502zCw512zHw202dzMw502yHu602yHu402yHu002yHu102yHw511zP22b8w202dxKw502zNw502z",
   "Ew512zNw202d+6w502yLu002yLu102yNu002yNu102yNw502dzVu002dzVu102dzVw202zPu602zPu402+Au002+Au122",
   "zPw202+Aw202yPu602yPu402yPu002yPu112d-Uu002d-Uu102d-Uw202+5u602+5u402+Bu002+Bu102+1uJ02+1uK02",
   "+5w202+Bw202z5u602z5u402z5u002z5u102z1uK02b8u002b8u101Z022dxSw502+9w502+Ew512+9w202d-Mw502yVu",
   "002yVu102z9u002z9u102z9w501bK21eW201eW3f41z931YB02Y1uAZE2eiGvO02eiIvOI2eiKvOU2ekGvO02ekKvO02e",
   "kIvOXK2em3vO42em8vO22emBvON2en3vO12en5vOQ2enSvO22eo3vO22eo5vO12eo8vOM2XTvO12ep1vOA2eoDvO02XSv",
   "O02XUvO02ep4vO02ep5vO22epIvO02epJvO22epMvO02epNvO62epQvO02epRvO22eq2vO02eq3vO22eq6vO02eq7vOX2",
   "2er2vO02er8vO02er9vO02erBvOXG2epSvO02epTvO02eqHvO02eqIvO62erIvO02erJvO02erKvO02erLvOXR1iW801i",
   "W9XzH2gsTvOXhF2iYBiaP12iYDiaP12iYFiaP12iYHiaP12iYJiaP12iYLiaP12iYNiaP12iYPiaP12iYRiaP12iYTiaP",
   "12iYViaP12iZ1iaP22iZ4iaP12iZ6iaP12iZ8iaP62iZFiaP02iZFiaQ12iZIiaP02iZIiaQ12iZLiaP02iZLiaQ12iZO",
   "iaP02iZOiaQ12iZRiaP02iZRiaQM2iY6iaP92iaTiaPD2ibBiaP12ibDiaP12ibFiaP12ibHiaP12ibJiaP12ibLiaP12",
   "ibNiaP12ibPiaP12ibRiaP12ibTiaP12ibViaP12ic1iaP22ic4iaP12ic6iaP12ic8iaP62icFiaP02icFiaQ12icIia",
   "P02icIiaQ12icLiaP02icLiaQ12icOiaP02icOiaQ12icRiaP02icRiaQM2ib6iaP22idFiaP02idGiaP02idHiaP02id",
   "IiaP32idTiaPXoW11XZY801vtK01XZsA01XZc801xsH01pnI01q-501XdyS01XdyS01sgH01XakH01ri701sg801ulM01",
   "zp901-y501XXnV01XXzQ01XYdO01XaaF01wm201xeR01ycP01y+U01XXXT01XahA01XclH01pq201qxL01wu401ymR01X",
   "XnD01XdmU01tgG01x-B01XXkD01XYh401us901XWkO01XYWV01tsA01vuN01xhA01ytS01XacE01py601qjN01qsU01vc",
   "401wsJ01ymG01zt701XWW101XXm601XXoS01XZlF01XbvI01XcxF01XdlQ01+aC01+hV01-j001XW+901Xau401XdpV01",
   "XYsM01scV01tu401-Z001XWZU01yp201+cA01XZc201XbtN01scO01tZ201wmJ01xkQ01xuF01-fF01-nN01XboB01qsI",
   "01XWaB01qkS01qkC01+mS01-jU01XW-H01XbpL01XYy001usF01wm201XYtU01pnP01s-701uWI01yy701zhG01quN01+",
   "dR01pzV01tz901pmD01xcC01vhO01-f201q+301sYU01zu101XXY901XYrA01wzQ01XZzG01xa801utU01XWt501uz001",
   "zh501prE01qh901qk901wa101-d701XWpF01XYsI01XakF01qtL01rY201shJ01ttC01vk501x-U01+fA01XbjD01XcpA",
   "01XdqN01XdsE01qqR01vs601wxN01XZx201tpK01uiG01um001vaQ01xv301yg901za901+kA01-lK01XWZF01XZv601X",
   "XdE01XaX301XawA01qmN01qr301rbT01yc801XYc201XYrA01ts901t-L01uxR01wzE01-XU01yxL01pt401rtP01s-70",
   "1tjQ01uWS01yzI01zZ901-yQ01XWY601XanK01XbtM01Xbw801XcWO01pyB01+jE01XajK01XbrO01ud101pq601qcQ01",
   "s-E01tXV01viP01wm201ykE01zo201XXdS01XaZS01XdyD01vq801XbnE01qq901vxR01v-J01xg101xqS01zW901zgP0",
   "1+ZB01-eG01XcYU01qhD01unE01XbpO01qXB01teP01xlA01XZvA01tyB01ug401wWN01yy701Xbq601qn901rWF01tZ5",
   "01vmJ01vwE01wb801xd501zW601zl201-xP01XYcF01XYd101XakC01Xbt201qvV01xrQ01rWT01ykG01zaO01XXlQ01X",
   "br301XdYN01XdqV01vyN01xkB01XWl801+sB01+v001-aI01ys001yaP01XYwO01ps001XWvM01qnQ01qm701tr601usJ",
   "01-cM01sy501xeU01vrK01XZvR01XYYC01XboD01XYiB01tsJ01qg001rk021sYQ11vpK21qkU01yvA01zsA01+fS01+g",
   "U01+h501+iF01XbwM01-bU01-zT11XXmI11XYtO21XaXO01XadT31XcdF01XcdS01Xcf801XdjK01XacU01XbrN01pzE0",
   "1qd701qgD01qs901qt401qwH01riT01rm601rp801sY001sb801tZ401tZE01uaK01uh801uiE01ulI01vgF01vl201vq",
   "H01wa501xhN01xmQ01xv201yhE01ynB01zX201+aH01+fU01+g901+g801+gG01+gM01+gT01+iD01+iE01+o001+q101",
   "++001-lK01-m901-o101-xI01XWW501XWlD01XWpP01XWpP01XXYN01XYeG01XYiM01XYu101XYvP01XZcJ01XZe801XZ",
   "zM01XaXO01Xbt301Xb-V01XcXR01uZL01amtE01XWmO21pn601qjL01qh801py001qg501qi001qs701qtQ01riT01rgL",
   "01riP01rl201sYQ01sbJ01sg401sgK01sp201sv801tsI01tsP01tx901tzD01ucO01ugE01ue801uiE01uh001ulI01u",
   "nK01u+401vWS01vYI01vgM01vpK01vuN01vuR01vwM01wxP01wzQ01xg101xsR01xsB01xv201yWU01yhE01zz701ynL0",
   "1yrF01yvA01zZH01ze601zfR01zmT01zmV01zsA01zsR01ztK01zwA01zw001+cC01+rH01++001-ZR01-gR01-lK01-v",
   "U01XWW501XWwI01XW-F01XXxP01XYg101XYi601XYiM01XYrV01XYtO01XYsB01XYu101XYtU01XYtD01XYvP01XYyA01",
   "XZe801XZvO01XaZI01XaiP01XapM01XbpS01Xbt301XbwM01Xb+R01Xb-V01XcWB01XcXR01XcuI01XdyS01agYA01agY",
   "401ai+L01kyT01mWO01mXP01aqo901atcG01a-sJ01Xdw301XdyEY32XkPXjK12XlIXjNA2Xl9Xk102Xl9Xk202X+w9Xk",
   "102X+w9Xk202XkGXjN02XkGXjO02XkGXjS02XkHXjS02XkIXjS02XkJXjS02XkKXjS02XkLXjS02XkMXjS12XkOXjS02X",
   "kPXjS02XkQXjS02XkRXjS02XkSXjS12XkUXjS12Xl0XjS02Xl1XjS12Xl3XjS02Xl4XjS12Xl6XjS02Xl7XjS02Xl8XjS",
   "02Xl9XjS02XlAXjS02XkLXjP02XkHXjV02XkRXjV02Xl4XjVYpQ2YXkIu7Q2YXkQu7YrL2YaaPYabQ12YaaRYabQE2Yab",
   "5YabQa22YafHYaf702YafIYaf7mR2Yaw7YavU02Yaw7YawNXM2Yay2Ya+912Yay4YazR82YayBYa+222YayGYa+9XJ2Ya",
   "+2Ya+212Ya+2YazO02Ya+2Ya+9dI2YbbPYbbQ02YbbPYbbG12YbbPYbbTdR2YbjOYbjF02YbjPYbjFxS2YcfLYcfGn-82",
   "YueUYueU02YueUYuf902YueUYueV02Yuf9YueV02YueUYuf002Yuf1YueV02Yuf2YueV02Yuf1Yuf0ZXV2Yxh7Yxh702Y",
   "xh3Yxh702Yxh9Yxh7u-J2ZqgNZqh502ZqgOZqh502ZqgVZqhE02ZqgVZqhF02ZqgVZqhG02ZqgVZqhH02ZqgVZqhIYM2Z",
   "qjPZqh502ZqjQZqh502ZqjRZqhE02ZqjSZqhE02ZqjRZqhF02ZqjSZqhFYfnV1pnT01pnO01po101aWf201px001pzE01",
   "pzR01qW201qZQ01qaP01qd701qcF01jaU01aXnQ01qgD01qgK01qh401qhN01aXeS01jbP01qh701qiD01aXgB01qiN01",
   "qj401psC01qjC01qjL01bakV01qlL01qm301jcV01qnR01qo601qpI01qpN01jeL01qs701qs901qt401qtQ01qu501qu",
   "601quN01qw901qwH01qwQ01qxJ01qxT01qxV01qxV01qxV01aYnC01yZG01q+A01q+V01aYx301q-B01q-H01rW601raU",
   "01rXO01rY801rZ801rb201rdM01reG01rgJ01rh301ri401ri401riP01rjB01rjJ01rk201ruM01rm601ruN01roH01r",
   "pK01qm701sdE01r+E01r-K01sWD01ryB01sXI01sXH01sbC01abd401sdI01sdN01se601seQ01sf201sh201abr801ab",
   "tA01slC01smR01sn701skO01sp601jtE01jtS01su801svU01svU01ack801s+301s+O01s-701s-J01acuO01s-V01tW",
   "601twJ01tX201jy101tZ001tZE01tc001taD01adl401tg301adl601thE01thB01thS01tl101tl201kXF01tlT01tn8",
   "01tnT01tp901kZ201aei301kZS01trG01trJ01trM01tsA01beyI01ttU01aevH01aevH01XWm101tv201tv201kc701a",
   "irO01aukQ01tx201txB01kd301tyQ01t+D01t+N01t-P01ua101kfQ01keS01uaK01afsK01uc701ug801ugC01ugE01u",
   "gC01uhQ01uiE01ujI01uj401ujF01ukU01ulI01ulM01umG01umR01uoT01urH01usK01uwG01aguC01uvT01utS01ux8",
   "01uy301u-401ag-H01vX201u+501uz901knE01vZ901vZU01vaT01vZN01kpC01vgF01vhC01aiWA01vl301vtO01vo90",
   "1kuP01vqH01ku801kt401qiI01qiL01vu001vqS01XWbD01m+P01vuN01vuR01vv101vwU01vwJ01ai+301kw901v-Q01",
   "vy501wYI01wa501ajZD01waE01wWV01weK01kyT01wg201wj301wlA01wr801ajr301wsR01lWO01wv101akb701wwK01",
   "lYE01wxI01wyV01wzQ01wzR01akqD01adeB01aktQ01xYE01albS01xbV01xcD01xZ701xeM01xfU01xhN01xg101xh90",
   "1xhO01xi501aleU01xfK01xnF01xpE01lfJ01xsB01xs701alsH01xlP01xxE01alwU01alyE01x+601yXP01yWU01yWR",
   "01liM01yYA01yZT01yZN01ybD01aXf501yg501amp301yiS01amzB01yn801ynL01yoG01anm801yq001yqL01anvL01a",
   "oWK01yxQ01yyB01lrC01yz501lrO01lrO01zY701zYS01zZH01za501zcA01luR01zf401apXM01zfU01apaI01zhG01a",
   "eiV01zmG01apz101apzO01aqY401l-S01mW801ztK01aqdJ01aqdI01aqeP01aqfJ01zuU01zuV01zuV01zwA01mXP01z",
   "yB01mY601maM01arWT01+YE01+aC01+cC01md301arn601+gM01arqQ01ars501+iF01+lB01mfF01+o001+oA01+oF01",
   "ashS01asr701asr701+tE01mm201aszB01++601++901mn701ata001-cI01mr001-d801-d301-e001aty601-h301mu",
   "101-k701-m201-o501mvK01aun801auo701mwP01ausP01-xQ01auvU01-yL01--Q01XWW501avcQ01avf301XWZ001av",
   "j801XWZG01aiwV01m+L01XWbI01XWe301nWB01XWfU01srL01avz701avzL01aiyJ01aiyS01XWm101XWm401XZyU01nZ",
   "B01XWqH01XWqB01XWqT01qrJ01XWrH01XWrJ01XWrT01XWt601awvS01XWt501XWuT01XWx301XWzD01XWv301XWzT01X",
   "W-701XXYN01XWwJ01XW+A01XW+C01XW+S01axXM01axhB01axcL01nfB01XXdH01XXdJ01XXeM01ay+A01XXh401axvC0",
   "1ngT01nh101axzH01aycI01nhB01XXoG01XXoS01XXp701XXp901XXr901XXq801XXuE01XXt201XXxP01XXv801XXxB0",
   "1XXy601nkN01XX-101XYW101nlP01XYZ001XYZ301azp701XYcN01XYcU01nnL01XYdQ01jbR01a+bE01a+h601nrU01n",
   "s701XYr001XYtD01XYyA01XZYL01a-b801XZbB01XZc101XZeR01XZhN01a-vF01aYW401XZkB01XZjS01XZlG01aYcU0",
   "1XZsK01XZvO01bXkI01bXlD01XaaK01XadH01XaeH01bXvE01XaeR01XanO01XasN01XasO01XapS01Xa-P01XbWL01bY",
   "-Q01XbiB01oiL01XbjN01bZhN01ol601Xbs301tjI01Xbv301bag501bamQ01opE01opM01Xb-001bbWA01orI01bbaM0",
   "1XcWB01XcWB01XcX901bbjM01Xcd201ovJ01Xcf901Xcj701Xck201XclU01o+E01bcvG01XcuI01XdY001XddT01pcE0",
   "1pdD01Xdh701becE01pdO01bee501bemE01beqH01XdrR01pgM01XdtP01XdtU01Xdu501XduF01XduM01XdvR01bfm0"]

/-- The full decompositions of characters that stand for others with some change of shape, in the
same way. -/
def shapeText : List String :=
  ["b01X072X0u811Z142X0u421XI01XJ02X0u101zS22X0v701XH01ZF13XHeY4XK03XHeY4XI03XJeY4XKZJ2Y9YA02Z9ZAB",
   "2YCbN02ZCbN82rSZEXL1ZJY43Y4YQuC03Y4ZQuC03Z4ZQuC02YCYA02YCZA02ZCZA02YEYA02YEZA02ZEZAX42Y4YQ02Y",
   "4ZQ02Z4ZQbS1Z801p601ZA01ZI01pP01pR01q101ZN01ZPV2X0u602X0u702X0uA02X0v802X0u302X0uB21p301ZC01Z",
   "J01ZO01qLaL2X0w592X0u103X0u8u1YA1zI01zO01z502z5u102z5u801+601+0P1zQ01+101+211yO01zL31z3iD2Xh5",
   "Xi2dD2Xn7XpK02Xo8XpK02Xs7XpK02XoAXpKXzQ2ZoDZnIZV2ZsDZrIX82ZrBZqP02ZrBZr1XE1ZuBZA3ZzIZxHZy013Z",
   "zJZxHZy0i21acSZXF1Y101c601Y211Y401Y501iE01Y701Y801Y901YA01YB01YC01YD01YE11YF01n201YG01YI01YK0",
   "1YL01YN01Z101oG01oH01de201Z201Z401Z501oP01oR01oS01Z711ZB01ZD01gB01ZF01oK01deM01deN01ZG01ZK01Z",
   "L01deT01pF01ZM01df501zI01zJ01zK01+601+701Z901ZI01ZL01ZM01zI01zJ01+101+601+7D1XXTX21oI01Z301oL",
   "01dG01oS01Z601oV01p101p501p801p901pA01dhR01qT01pD01di501qV01pH01pG01pI01pJ01pK01pL01pO01q201q",
   "301jB01q901qA01deS01qB01qC01ZQ01qG01qH01qI01zOcQ2Z1rU02ZJu7f12X0uJ12X0uJ02X0w203X0u8w2B3X0uJu",
   "003X0uJu103X0uJw2D3X0uKu003X0uKu103X0uKw2D3X0u8u003X0u8u1E2X0u102X0uK11X001X001X001X001X001X0",
   "01X001X001X001X001X061eWG52X0vJC1XE02XEXE03XEXEXE81X032eXIeXI03eXIeXIeXI12eXLeXL03eXLeXLeXL42",
   "X1X112X0u582XVXV02XVX102X1XVD4eXIeXIeXIeXI71X0G1XG01Z921XK01XL01XM01XN01XO01XP01XB01emI01XT01",
   "X801X901ZE01XG01XH01XI01XJ01XK01XL01XM01XN01XO01XP01XB01emI01XT01X801X911Z101Z501ZF01ZO01oP01",
   "Z801ZB01ZC01ZD01ZE01ZG01ZJ01ZKB2YIZJYN3Z1XFZ303Z1XFZJ01Y302bGY313Z3XFZF03Z3XFZL01iG12bGY601Z7",
   "01Y801Y801Y801Z801f701Y901Y901YC01ZC11YE02YEZF21YG01YH01YI01YI01YI22YJYD03YKY5YC02YKYD11YQ31Y",
   "Q31Y201Y311Z501Y501Y611YD01ZF01XkG01XkH01XkI01XkJ01Z913Y6Y1YO01+001zJ01yJ01z001emH41Y401Z401Z",
   "501Z901ZA63XHeY4XN03XHeY4XP04XHeY4XHXG03XHeY4XJ03XIeY4XJ03XHeY4XL03XIeY4XL03XJeY4XL03XKeY4XL0",
   "3XHeY4XM03XLeY4XM03XHeY4XO03XJeY4XO03XLeY4XO03XNeY4XO02XHeY401Y902Y9Y903Y9Y9Y902Y9YM01YM02YMY",
   "903YMY9Y904YMY9Y9Y902Y9YO01YO02YOY903YOY9Y901YC01Y301Y401YD01Z902Z9Z903Z9Z9Z902Z9ZM01ZM02ZMZ9",
   "03ZMZ9Z904ZMZ9Z9Z902Z9ZO01ZO02ZOZ903ZOZ9Z901ZC01Z301Z401ZD93XGeY4XJb22enBenB03enBenBenB12enEe",
   "nE03enEenEenEnF1XH01XI01XJ01XK01XL01XM01XN01XO01XP02XHXG02XHXH02XHXI02XHXJ02XHXK02XHXL02XHXM0",
   "2XHXN02XHXO02XHXP02XIXG03X8XHX903X8XIX903X8XJX903X8XKX903X8XLX903X8XMX903X8XNX903X8XOX903X8XP",
   "X904X8XHXGX904X8XHXHX904X8XHXIX904X8XHXJX904X8XHXKX904X8XHXLX904X8XHXMX904X8XHXNX904X8XHXOX90",
   "4X8XHXPX904X8XIXGX902XHXE02XIXE02XJXE02XKXE02XLXE02XMXE02XNXE02XOXE02XPXE03XHXGXE03XHXHXE03XH",
   "XIXE03XHXJXE03XHXKXE03XHXLXE03XHXMXE03XHXNXE03XHXOXE03XHXPXE03XIXGXE03X8Z1X903X8Z2X903X8Z3X90",
   "3X8Z4X903X8Z5X903X8Z6X903X8Z7X903X8Z8X903X8Z9X903X8ZAX903X8ZBX903X8ZCX903X8ZDX903X8ZEX903X8ZF",
   "X903X8ZGX903X8ZHX903X8ZIX903X8ZJX903X8ZKX903X8ZLX903X8ZMX903X8ZNX903X8ZOX903X8ZPX903X8ZQX901Y",
   "101Y201Y301Y401Y501Y601Y701Y801Y901YA01YB01YC01YD01YE01YF01YG01YH01YI01YJ01YK01YL01YM01YN01YO",
   "01YP01YQ01Z101Z201Z301Z401Z501Z601Z701Z801Z901ZA01ZB01ZC01ZD01ZE01ZF01ZG01ZH01ZI01ZJ01ZK01ZL0",
   "1ZM01ZN01ZO01ZP01ZQ01XGXf14enBenBenBenBZ73XQXQXT02XTXT03XTXTXTm51ZA01YMdH1hh1fF1w+DYJ1XdyVC1p",
   "m001pn801pnM01pnV01poP01pq501pqC01pr001prQ01qfV01qh501qhB01qi201qiM01qjB01ql001qlL01qm001qqR0",
   "1qtP01quL01quQ01qvO01qw101qwS01qx901qy201qzM01q+801q-301rsN01ruV01sdB01se201seA01seL01sf701sh",
   "J01swG01sy001s-O01tWF01tX201tXO01tZE01tZH01tkR01tl501tlH01tlU01tpI01tpQ01tpV01ttK01ttU01tuB01",
   "tuJ01twG01tx101txJ01t+301um801unM01uoB01vfF01vfK01vi701viN01vj401vjP01vl001vl501vtG01vu801vv8",
   "01wv001wx201wxP01wzJ01w+B01w+K01w+R01xWF01xWK01xXK01yZB01ynA01ynM01ynR01ynV01yo701yoP01yoR01y",
   "rC01yy401yy901zcS01zd601zeO01zeV01zf801zfG01ziB01ziI01zpM01zpT01zrE01zrV01ztE01z+R01z-201z-J0",
   "1+fQ01+jO01+jU01+pK01+sB01+tP01-ZJ01-dO01-vM01-wH01-yA01-zT01XWW101XWWC01XWWI01XWXJ01XWZV01XW",
   "a901XWl301XWlA01XWlJ01XWlS01XWmC01XWmR01XWmV01XWpE01XWpI01XWpO01XXoD01XXpB01XYY001XYYC01XYZ30",
   "1XYhU01XYiB01XYkI01XYm001XZXN01XZY601XZYL01XZZO01XZaT01XZh401XZhG01XZjJ01XZrB01XZsA01XZyR01XZ",
   "zG01XZzL01XaaH01Xag901Xak601XakC01XakH01XbhN01Xbi001XbmS01XbrM01XbrP01Xbt801XbwH01XbwU01Xbx20",
   "1Xbx901Xb+B01Xb-D01Xb-J01XcW101Xcb801XccR01XccV01XciM01XciP01XcjC01Xcr801XcsO01XcsV01Xcv501Xc",
   "vF01XcvI01XcvS01XcwQ01Xdd501XdpL01XdpV01Xdr501XdrR01Xds301XdsD01XdsH01XdtP01XdtT01XduE01XduJ0",
   "1Xdv001XdvR01XdwA01XdwI01XdyD01XdyS01Xdz0XA1X0XL1iWI11qw101qw401qw5Z02X0iaP02X0iaQ22ia8iaAYV2",
   "ibJic8XH1ae001ae101ajA01ae201ajC01ajD01ae301ae401ae501ajG01ajH01ajI01ajJ01ajK01ajL01aeQ01ae60",
   "1ae701ae801af101ae901aeA01aeB01aeC01aeD01aeE01aeF01aeG01aeH01aeI01ah101ah201ah301ah401ah501ah",
   "601ah701ah801ah901ahA01ahB01ahC01ahD01ahE01ahF01ahG01ahH01ahI01ahJ01ahK01ahL01ah001aeK01aeL01",
   "ak701ak801akC01akE01akJ01akN01akP01aeS01akT01akV01aeT01aeU01af001af201af301af701af901afB01afC",
   "01afD01afE01afF01afI01afM01ag001ag701agC01alH01alI01agN01agO01agP01ai401ai501ai801aiH01aiI01a",
   "iK01aiU01aj131pm001pqC01pm901rsR01pmA01pnD01pmB01zfI01poP01pmP01pm101sf901rvG01prQZ03X8ae0X90",
   "3X8ae2X903X8ae3X903X8ae5X903X8ae6X903X8ae7X903X8ae9X903X8aeBX903X8aeCX903X8aeEX903X8aeFX903X8",
   "aeGX903X8aeHX903X8aeIX904X8ae0ah1X904X8ae2ah1X904X8ae3ah1X904X8ae5ah1X904X8ae6ah1X904X8ae7ah1",
   "X904X8ae9ah1X904X8aeBah1X904X8aeCah1X904X8aeEah1X904X8aeFah1X904X8aeGah1X904X8aeHah1X904X8aeI",
   "ah1X904X8aeCahEX907X8aeBah9aeCah5ajBX906X8aeBah9aeIahEX913X8pm0X903X8pqCX903X8pm9X903X8rsRX90",
   "3X8pqKX903X8qhDX903X8pm3X903X8qhBX903X8poTX903X8qw1X903X8vu8X903X8yZBX903X8xXKX903X8vv8X903X8",
   "XakHX903X8ruVX903X8vl5X903X8wXAX903X8vu9X903X8+fUX903X8rWDX903X8ypPX903X8XZb1X903X8+gTX903X8q",
   "rKX903X8pt3X903X8rZSX903X8sx6X903X8zt3X903X8pu1X903X8XZc7X903X8qwKX903X8+hDX903X8puHX903X8XWl",
   "AX903X8XWlJX901rgF01tpS01vi701+yF83YGYKY502XIXH02XIXI02XIXJ02XIXK02XIXL02XIXM02XIXN02XIXO02XI",
   "XP02XJXG02XJXH02XJXI02XJXJ02XJXK02XJXL01ae001ae201ae301ae501ae601ae701ae901aeB01aeC01aeE01aeF",
   "01aeG01aeH01aeI02ae0ah102ae2ah102ae3ah102ae5ah102ae6ah102ae7ah102ae9ah102aeBah102aeCah102aeEa",
   "h102aeFah102aeGah102aeHah102aeIah105aeEah1ajNae0ah904aeCahEaeBahK02aeBahE11pm001pqC01pm901rsR",
   "01pqK01qhD01pm301qhB01poT01qw101vu801yZB01xXK01vv801XakH01ruV01vl501wXA01vu901+fU01rWD01ypP01",
   "XZb101+gT01qrK01+kO01zfN01shJ01XaZ901qfA01qxG01xd801XcW501puH01qiP01wx301pmA01pnD01pmB01tl601",
   "q-J01qvR01syN01sx601zt301pu101XZc701qwK01seS02XJXM02XJXN02XJXO02XJXP02XKXG02XKXH02XKXI02XKXJ0",
   "2XKXK02XKXL02XKXM02XKXN02XKXO02XKXP02XLXG02XHvu802XIvu802XJvu802XKvu802XLvu802XMvu802XNvu802X",
   "Ovu802XPvu803XHXGvu803XHXHvu803XHXIvu802Y8Z703Z5ZIZ702Z5YM03YCYKY401ib201ib401ib601ib801ibA01",
   "ibB01ibD01ibF01ibH01ibJ01ibL01ibN01ibP01ibR01ibT01ibV01ic101ic401ic601ic801icA01icB01icC01icD",
   "01icE01icF01icI01icL01icO01icR01icU01icV01id001id101id201id401id601id801id901idA01idB01idC01i",
   "dD01idF01idG01idH01idI02pt4raC05ib2icFiaQidSic804ib2idBicLib105ib2idJicOiaQib203ib2idSidB05ib",
   "4icBidJibFiaP03ib4idJic103ib6ib9idJ06ib8ibPibFidSic8iaP04ib8idSibBidS03ibAidJibP03ibAidSid003",
   "ibBib4idA04ibBid9ic3ic804ibBidDidAidS04ibBiaPidDidJ04ibBiaPidJicU04ibDiaPibBiaP04ibDiaPicBidS",
   "04ibDid5idAidS06ibDiaPidBibViaPidS02ibDidD06ibDidDibFiaPid9id006ibDidDid1idSic8idB05ibDidDidF",
   "ic3ic804ibFiaPid9id006ibFiaPid9id0ic8idJ06ibFidBibRiaPib4idD04ibFidDidSicD03ibHidSibP03ibJidB",
   "icA04ibJidSicRiaQ04ibLib4ibFidB05ibLidJic1idSid005ibNidAidJibFiaP03ibRidJic103ibRidJic804ibVi",
   "aPidSibP03ic6iaPibN03ic8iaPidB02ic8idJ02icAicE03icEic3ic803icFib4ic406icFiaQidSibRidJic804icF",
   "iaQidSic405icFiaPidSidCidB06icIiaQib2ibPic8idB04icIiaQibFidB03icIiaQibJ03icIiaPidB06icLib1id9",
   "ic3ic8iaP04icLib3idSic806icLiaPic3ibNib7idB03icLid9idJ05icOibFibVidSidB03icOiaQibT04icOiaQicB",
   "icI03icOidBic404icOiaQidJibP05icOiaQidSibNiaP04icOiaPidSibV05icRiaQib4idJic804icRiaPidBic802i",
   "cRidJ05icRiaQidJic8iaP03icRidSidB03icRidSidJ04icUib4ibFidD03icUib4idB03icUic3icF03icUidBibF05",
   "icUidJibNid7idJ04icVibFidDidJ02icVidA06icVidAicFiaPidSidB03id1ibBiaP05id1ibBiaPic8idJ04id1idS",
   "ic8idB04id4idSic8iaP03id4idSidB03id6ib2idJ04idAic3ic8idB02idAid904idBicIiaQidS05idBidSicLiaPi",
   "dB02idCid006idCidJic8ibHiaPidJ03idFic3ic802XGybP02XHybP02XIybP02XJybP02XKybP02XLybP02XMybP02X",
   "NybP02XOybP02XPybP03XHXGybP03XHXHybP03XHXIybP03XHXJybP03XHXKybP03XHXLybP03XHXMybP03XHXNybP03X",
   "HXOybP03XHXPybP03XIXGybP03XIXHybP03XIXIybP03XIXJybP03XIXKybP03Z8YGZ102Z4Z102Y1YL03Z2Z1ZI02ZFY",
   "M02ZGZ302Z4ZD03Z4ZDXI03Z4ZDXJ02Y9YL02tpJumG02vnDraC02sf7wx302vmExbR04wXAtuFpuQ+fU02ZGY102ZEY1",
   "02zSY102ZDY102ZBY102YBY202YDY202Y7Y203Z3Z1ZC04ZBZ3Z1ZC02ZGY602ZEY602zSY602zSZ702ZDZ702ZBZ702Y",
   "8ZQ03ZBY8ZQ03YDY8ZQ03Y7Y8ZQ03YKY8ZQ02zSZC02ZDZC02Z4ZC02ZBZC02Z6ZD02ZEZD02zSZD02ZDZD02Z3ZD02ZB",
   "ZD03ZDZDXI03Z3ZDXI02ZDXI03ZBZDXI03ZDZDXJ03Z3ZDXJ02ZDXJ03ZBZDXJ03ZDemLZJ04ZDemLZJXI02YGZ103ZBY",
   "GZ103YDYGZ103Y7YGZ103ZIZ1Z405ZIZ1Z4emLZJ06ZIZ1Z4emLZJXI02ZGZJ02ZEZJ02zSZJ02ZDZJ02ZGYM02ZEYM02",
   "zSYM02ZDYM02ZBYM02YDYM02ZGYN02ZEYN02zSYN02ZDYN02ZBYN02YDYN02ZBz902YDz904Z1XEZDXE02Y2ZH02Z3Z30",
   "2Z3Z404Y3emLZBZ703Y3ZFXE02Z4Y202Y7ZP02Z8Z102Y8YG02Z9ZE02YBYB02YBYD02ZBZK02ZCZD02ZCZE03ZCZFZ70",
   "2ZCZO02ZDZ203ZDZ9ZC03ZDZFZC02YGY804ZGXEZDXE03YGYGYD02YGYI02ZJZI02YJZM02YNZ203YMemLZD03Y1emLZD",
   "02XHvl502XIvl502XJvl502XKvl502XLvl502XMvl502XNvl502XOvl502XPvl503XHXGvl503XHXHvl503XHXIvl503X",
   "HXJvl503XHXKvl503XHXLvl503XHXMvl503XHXNvl503XHXOvl503XHXPvl503XIXGvl503XIXHvl503XIXIvl503XIXJ",
   "vl503XIXKvl503XIXLvl503XIXMvl503XIXNvl503XIXOvl503XIXPvl503XJXGvl503XJXHvl503Z7Z1ZCyqS1XYA01X",
   "YCcI1XfxFa11Y301Y601YH31f601gJx21Xfv701XgvN01pB01XgwI91qDpyM2Z6Z602Z6Z902Z6ZC03Z6Z6Z903Z6Z6ZC",
   "02ZJZK02ZJZKC2XhKXhM02XhKXh502XhKXhB02XhUXhM02XhKXhD81Xl201XkG01XkJ01XkK01XkR01XkS01XkT01Xl80",
   "1XlA01XBX52XkGXkS01XpH01XpH01XpR01XpR01XpR01XpR01XpU01XpU01XpU01XpU01Xq001Xq001Xq001Xq001XpQ0",
   "1XpQ01XpQ01XpQ01XpV01XpV01XpV01XpV01XpP01XpP01XpP01XpP01Xr401Xr401Xr401Xr401Xr601Xr601Xr601Xr",
   "601Xq401Xq401Xq401Xq401Xq301Xq301Xq301Xq301Xq601Xq601Xq601Xq601Xq701Xq701Xq701Xq701XqD01XqD01",
   "XqC01XqC01XqE01XqE01Xq801Xq801XqO01XqO01XqH01XqH01Xr901Xr901Xr901Xr901XrF01XrF01XrF01XrF01XrJ",
   "01XrJ01XrJ01XrJ01XrH01XrH01XrH01XrH01XrQ01XrQ01XrR01XrR01XrR01XrR02XsLXoK02XsLXoK01Xs101Xs101",
   "Xs101Xs101XrU01XrU01XrU01XrU01XsI01XsI02XsIXoK02XsIXoKX11XrD01XrD01XrD01XrD01Xs701Xs701Xs601X",
   "s601Xs801Xs802Xs7XpK01XsB01XsB01Xs501Xs501Xs901Xs901XsG01XsG01XsG01XsG01Xo901Xo903XoAXoKXn703",
   "XoAXoKXn703XoAXoKXsL03XoAXoKXsL03XoAXoKXo803XoAXoKXo803XoAXoKXs703XoAXoKXs703XoAXoKXs603XoAXo",
   "KXs603XoAXoKXs803XoAXoKXs803XoAXoKXsG03XoAXoKXsG03XoAXoKXsG03XoAXoKXo903XoAXoKXo903XoAXoKXo90",
   "1XsC01XsC01XsC01XsC03XoAXoKXnC03XoAXoKXnD03XoAXoKXo503XoAXoKXo903XoAXoKXoA02Xn8XnC02Xn8XnD02X",
   "n8XnE02Xn8Xo502Xn8Xo902Xn8XoA02XnAXnC02XnAXnD02XnAXnE02XnAXo502XnAXo902XnAXoA02XnBXnC02XnBXo5",
   "02XnBXo902XnBXoA02XnCXnD02XnCXo502XnDXnC02XnDXo502XnEXnC02XnEXnD02XnEXo502XnJXnC02XnJXnD02XnJ",
   "XnE02XnJXo502XnLXnD02XnLXo502XnMXnC02XnMXnD02XnMXnE02XnMXo502XnNXnD02XnNXo502XnOXo502XnPXnC02",
   "XnPXo502XnQXnC02XnQXo502Xo1XnC02Xo1XnD02Xo1XnE02Xo1Xo502Xo1Xo902Xo1XoA02Xo2XnD02Xo2Xo502Xo2Xo",
   "902Xo2XoA02Xo3Xn702Xo3XnC02Xo3XnD02Xo3XnE02Xo3Xo402Xo3Xo502Xo3Xo902Xo3XoA02Xo4XnC02Xo4XnD02Xo",
   "4XnE02Xo4Xo502Xo4Xo902Xo4XoA02Xo5XnC02Xo5XnD02Xo5XnE02Xo5Xo502Xo5Xo902Xo5XoA02Xo6XnC02Xo6XnD0",
   "2Xo6XnE02Xo6Xo502Xo6Xo902Xo6XoA02Xo7XnC02Xo7Xo502Xo7Xo902Xo7XoA02XoAXnC02XoAXnD02XoAXnE02XoAX",
   "o502XoAXo902XoAXoA02XnGXpG02XnHXpG02Xo9XpG03X0XoCXoH03X0XoDXoH03X0XoEXoH03X0XoFXoH03X0XoGXoH0",
   "3X0XoHXpG03XoAXoKXnH03XoAXoKXnI03XoAXoKXo503XoAXoKXo603XoAXoKXo903XoAXoKXoA02Xn8XnH02Xn8XnI02",
   "Xn8Xo502Xn8Xo602Xn8Xo902Xn8XoA02XnAXnH02XnAXnI02XnAXo502XnAXo602XnAXo902XnAXoA02XnBXnH02XnBXn",
   "I02XnBXo502XnBXo602XnBXo902XnBXoA02Xo1Xo902Xo1XoA02Xo2Xo902Xo2XoA02Xo3Xn702Xo3Xo402Xo3Xo502Xo",
   "3Xo902Xo3XoA02Xo4Xo502Xo4Xo902Xo4XoA02Xo5Xn702Xo5Xo502Xo6XnH02Xo6XnI02Xo6Xo502Xo6Xo602Xo6Xo90",
   "2Xo6XoA02Xo9XpG02XoAXnH02XoAXnI02XoAXo502XoAXo602XoAXo902XoAXoA03XoAXoKXnC03XoAXoKXnD03XoAXoK",
   "XnE03XoAXoKXo503XoAXoKXo702Xn8XnC02Xn8XnD02Xn8XnE02Xn8Xo502Xn8Xo702XnAXnC02XnAXnD02XnAXnE02Xn",
   "AXo502XnAXo702XnBXo502XnCXnD02XnCXo502XnDXnC02XnDXo502XnEXnC02XnEXo502XnJXnC02XnJXnD02XnJXnE0",
   "2XnJXo502XnLXnD02XnLXnE02XnLXo502XnMXnC02XnMXnD02XnMXnE02XnMXo502XnNXnD02XnOXo502XnPXnC02XnPX",
   "o502XnQXnC02XnQXo502Xo1XnC02Xo1XnD02Xo1XnE02Xo1Xo502Xo2XnD02Xo2Xo502Xo3XnC02Xo3XnD02Xo3XnE02X",
   "o3Xo402Xo3Xo502Xo4XnC02Xo4XnD02Xo4XnE02Xo4Xo502Xo4Xo702Xo5XnC02Xo5XnD02Xo5XnE02Xo5Xo502Xo6XnC",
   "02Xo6XnD02Xo6XnE02Xo6Xo502Xo6Xo702Xo7XnC02Xo7Xo502Xo7XpG02XoAXnC02XoAXnD02XoAXnE02XoAXo502XoA",
   "Xo703XoAXoKXo503XoAXoKXo702Xn8Xo502Xn8Xo702XnAXo502XnAXo702XnBXo502XnBXo702XnJXo502XnJXo702Xn",
   "KXo502XnKXo702Xo3Xo402Xo3Xo502Xo4Xo502Xo6Xo502Xo6Xo702XoAXo502XoAXo703Xo0XoEXoH03Xo0XoFXoH03X",
   "o0XoGXoH02XnNXo902XnNXoA02XnPXo902XnPXoA02XnQXo902XnQXoA02XnJXo902XnJXoA02XnKXo902XnKXoA02XnD",
   "Xo902XnDXoA02XnCXo902XnCXoA02XnEXo902XnEXoA02XnLXo902XnLXoA02XnMXo902XnMXoA02XnKXnC02XnKXnD02",
   "XnKXnE02XnKXo502XnKXnH02XnJXnH02XnLXnH02XnMXnH02XnNXo902XnNXoA02XnPXo902XnPXoA02XnQXo902XnQXo",
   "A02XnJXo902XnJXoA02XnKXo902XnKXoA02XnDXo902XnDXoA02XnCXo902XnCXoA02XnEXo902XnEXoA02XnLXo902Xn",
   "LXoA02XnMXo902XnMXoA02XnKXnC02XnKXnD02XnKXnE02XnKXo502XnKXnH02XnJXnH02XnLXnH02XnMXnH02XnKXnC0",
   "2XnKXnD02XnKXnE02XnKXo502XnJXo702XnKXo702XnNXo502XnJXnC02XnJXnD02XnJXnE02XnKXnC02XnKXnD02XnKX",
   "nE02XnNXo502XnOXo502Xn7XoB02Xn7XoBI3XnAXnCXo503XnAXnDXnC03XnAXnDXnC03XnAXnDXo503XnAXnEXo503Xn",
   "AXo5XnC03XnAXo5XnD03XnAXo5XnE03XnCXo5XnD03XnCXo5XnD03XnDXo5XoA03XnDXo5Xo903XnJXnDXnC03XnJXnCX",
   "nD03XnJXnCXo903XnJXo5XnD03XnJXo5XnD03XnJXo5XnC03XnJXo5Xo503XnJXo5Xo503XnLXnDXnD03XnLXnDXnD03X",
   "nLXo5Xo503XnKXnDXo503XnKXnDXo503XnKXnCXoA03XnKXo5XnE03XnKXo5XnE03XnKXo5Xo503XnKXo5Xo503XnMXnD",
   "Xo903XnMXnEXo503XnMXnEXo503XnNXo5XnD03XnNXo5XnD03XnNXo5Xo503XnNXo5XoA03XnPXnCXo503XnPXo5Xo503",
   "XnPXo5Xo503XnPXo5Xo903XnQXo5Xo503XnQXo5XoA03XnQXo5Xo903Xo1XnEXo503Xo1XnEXo503Xo2Xo5XnD03Xo2Xo",
   "5Xo503Xo4XnDXo503Xo4XnDXoA03Xo4XnDXo903Xo4XnCXnC03Xo4XnCXnC03Xo4XnEXo503Xo4XnEXo503Xo4Xo5XnD0",
   "3Xo4Xo5XnD03Xo5XnDXnC03Xo5XnDXo503Xo5XnDXoA03Xo5XnCXnD03Xo5XnCXo503Xo5XnEXnC03Xo5XnEXo523Xo5X",
   "nCXnE03Xo7Xo5XnC03Xo7Xo5Xo503Xo6XnDXo503Xo6XnDXo903Xo6XnCXo503Xo6XnCXo503Xo6XnCXo903Xo6Xo5XoA",
   "03Xo6Xo5Xo903XoAXo5Xo503XoAXo5Xo503Xn8XnEXoA03XnAXnCXoA03XnAXnCXo903XnAXnEXoA03XnAXnEXo903XnA",
   "Xo5XoA03XnAXo5Xo903XnCXo5XoA03XnCXnDXo903XnCXo5Xo903XnJXnEXo903XnLXnDXoA03XnKXnDXoA03XnMXnDXo",
   "A03Xo4XnCXoA03Xo4Xo5XoA03XoAXnDXoA03XoAXnCXoA03XoAXo5XoA03Xo5Xo5XoA03Xo2Xo5XoA03Xo6XnDXoA03Xo",
   "2Xo5XnD03Xo4XnDXo503XnPXo5XoA03Xo3Xo5XoA03Xo6XnCXnD03Xo5XnEXoA03Xo4XnCXo503Xo3Xo5Xo503Xo4XnCX",
   "o503Xo6XnCXnD03XnCXnDXoA03XnDXnCXoA03Xo5XnCXoA03Xo1Xo5XoA03Xn8XnDXoA03Xo3Xo5Xo503XnPXnCXo503X",
   "nLXo5Xo503XnJXnEXoA03Xo6XnCXoAX83XnLXo4XsI03Xo2Xo4XsI04Xn7Xo4Xo4Xo704Xn7Xo3Xn8XnH04Xo5XnDXo5X",
   "nF04XnLXo4XnPXo504XnHXnJXo8Xo404XnPXo4XoAXo704Xo8XnJXo4Xo503XnLXo4Xo90IXnLXo4Xo9X0Xn7Xo4Xo4Xo",
   "7X0XnPXo4XoAXo7X0Xo8XnJXo4Xo508XnCXo4X0XnCXo4Xn7Xo4Xo704XnHXsCXn7Xo4J1XC01iW101iW201XQ01XR01X",
   "101XV01iWM01iWN03XEXEXEM2XEXE01eWK01eWJ01YV01YV01X801X901ZR01ZT01iWK01iWL01iWG01iWH01iWA01iWB",
   "01iW801iW901iWC01iWD01iWE01iWF21YR01YT02X0u502X0u502X0u502X0u501YV01YV01YV01XC01iW101XE11XR01",
   "XQ01XV01X101eWK01X801X901ZR01ZT01iWK01iWL01X301X601XA01XB01XD01XS01XU01XT11YS01X401X501Y042X0",
   "XoB02Xo0XoB02X0XoC12X0XoD12X0XoE02Xo0XoE02X0XoF02Xo0XoF02X0XoG02Xo0XoG02X0XoH02Xo0XoH02X0XoI0",
   "2Xo0XoI01Xn102Xn7XoJ02Xn7XoJ02Xn7XoK02Xn7XoK02Xo8XoK02Xo8XoK02Xn7XoL02Xn7XoL02XoAXoK02XoAXoK0",
   "2XoAXoK02XoAXoK01Xn701Xn701Xn801Xn801Xn801Xn801Xn901Xn901XnA01XnA01XnA01XnA01XnB01XnB01XnB01X",
   "nB01XnC01XnC01XnC01XnC01XnD01XnD01XnD01XnD01XnE01XnE01XnE01XnE01XnF01XnF01XnG01XnG01XnH01XnH0",
   "1XnI01XnI01XnJ01XnJ01XnJ01XnJ01XnK01XnK01XnK01XnK01XnL01XnL01XnL01XnL01XnM01XnM01XnM01XnM01Xn",
   "N01XnN01XnN01XnN01XnO01XnO01XnO01XnO01XnP01XnP01XnP01XnP01XnQ01XnQ01XnQ01XnQ01Xo101Xo101Xo101",
   "Xo101Xo201Xo201Xo201Xo201Xo301Xo301Xo301Xo301Xo401Xo401Xo401Xo401Xo501Xo501Xo501Xo501Xo601Xo6",
   "01Xo601Xo601Xo701Xo701Xo701Xo701Xo801Xo801Xo901Xo901XoA01XoA01XoA01XoA03Xo4Xn7XoJ03Xo4Xn7XoJ0",
   "3Xo4Xn7XoK03Xo4Xn7XoK03Xo4Xn7XoL03Xo4Xn7XoL02Xo4Xn702Xo4Xn741X101X201X301X401X501X601X701X801",
   "X901XA01XB01XC01XD01XE01XF01XG01XH01XI01XJ01XK01XL01XM01XN01XO01XP01XQ01XR01XS01XT01XU01XV01Y",
   "001Y101Y201Y301Y401Y501Y601Y701Y801Y901YA01YB01YC01YD01YE01YF01YG01YH01YI01YJ01YK01YL01YM01YN",
   "01YO01YP01YQ01YR01YS01YT01YU01YV01Z001Z101Z201Z301Z401Z501Z601Z701Z801Z901ZA01ZB01ZC01ZD01ZE0",
   "1ZF01ZG01ZH01ZI01ZJ01ZK01ZL01ZM01ZN01ZO01ZP01ZQ01ZR01ZS01ZT01ZU01gi501gi601iW201iWC01iWD01iW1",
   "01idR01idI01ib101ib301ib501ib701ib901id301id501id701ic301idS01ib201ib401ib601ib801ibA01ibB01i",
   "bD01ibF01ibH01ibJ01ibL01ibN01ibP01ibR01ibT01ibV01ic101ic401ic601ic801icA01icB01icC01icD01icE0",
   "1icF01icI01icL01icO01icR01icU01icV01id001id101id201id401id601id801id901idA01idB01idC01idD01id",
   "F01idJ01iaP01iaQ01ah001ae001ae101ajA01ae201ajC01ajD01ae301ae401ae501ajG01ajH01ajI01ajJ01ajK01",
   "ajL01aeQ01ae601ae701ae801af101ae901aeA01aeB01aeC01aeD01aeE01aeF01aeG01aeH01aeI31ah101ah201ah3",
   "01ah401ah501ah621ah701ah801ah901ahA01ahB01ahC21ahD01ahE01ahF01ahG01ahH01ahI21ahJ01ahK01ahL31b",
   "201b301bC02X0u401b601b501eb911fe201eiG01eiH01eiI01eiJ01fj001fkBXyI1sG01sH01d601qP01oJ11r301Xg",
   "x601r501r401oM01oN01diH01oO01oU01r901p401p201p001qR01f701qS01p701q401rA01rB01pC01Ztu401XfyE01",
   "pE01Ztu501qE01Ztu601dO01pM01pN01ZH01pQ01Ztu801pT01pU01q001r801r601Xgx701r701q801hZH11qF01r101",
   "r201qO01k001k101k201ZtuA01ZtuUXneR1Y101Y201Y301Y401Y501Y601Y701Y801Y901YA01YB01YC01YD01YE01YF",
   "01YG01YH01YI01YJ01YK01YL01YM01YN01YO01YP01YQ01XG01XH01XI01XJ01XK01XL01XM01XN01XO01XPXu61Y101Y",
   "201Y301Y401Y501Y601Y701Y801Y901YA01YB01YC01YD01YE01YF01YG01YH01YI01YJ01YK01YL01YM01YN01YO01YP",
   "01YQ01Z101Z201Z301Z401Z501Z601Z701Z801Z901ZA01ZB01ZC01ZD01ZE01ZF01ZG01ZH01ZI01ZJ01ZK01ZL01ZM0",
   "1ZN01ZO01ZP01ZQ01Y101Y201Y301Y401Y501Y601Y701Y801Y901YA01YB01YC01YD01YE01YF01YG01YH01YI01YJ01",
   "YK01YL01YM01YN01YO01YP01YQ01Z101Z201Z301Z401Z501Z601Z711Z901ZA01ZB01ZC01ZD01ZE01ZF01ZG01ZH01Z",
   "I01ZJ01ZK01ZL01ZM01ZN01ZO01ZP01ZQ01Y101Y201Y301Y401Y501Y601Y701Y801Y901YA01YB01YC01YD01YE01YF",
   "01YG01YH01YI01YJ01YK01YL01YM01YN01YO01YP01YQ01Z101Z201Z301Z401Z501Z601Z701Z801Z901ZA01ZB01ZC0",
   "1ZD01ZE01ZF01ZG01ZH01ZI01ZJ01ZK01ZL01ZM01ZN01ZO01ZP01ZQ01Y111Y301Y421Y721YA01YB21YE01YF01YG01",
   "YH11YJ01YK01YL01YM01YN01YO01YP01YQ01Z101Z201Z301Z411Z611Z801Z901ZA01ZB01ZC01ZD01ZE11ZG01ZH01Z",
   "I01ZJ01ZK01ZL01ZM01ZN01ZO01ZP01ZQ01Y101Y201Y301Y401Y501Y601Y701Y801Y901YA01YB01YC01YD01YE01YF",
   "01YG01YH01YI01YJ01YK01YL01YM01YN01YO01YP01YQ01Z101Z201Z301Z401Z501Z601Z701Z801Z901ZA01ZB01ZC0",
   "1ZD01ZE01ZF01ZG01ZH01ZI01ZJ01ZK01ZL01ZM01ZN01ZO01ZP01ZQ01Y101Y211Y401Y501Y601Y721YA01YB01YC01",
   "YD01YE01YF01YG01YH11YJ01YK01YL01YM01YN01YO01YP11Z101Z201Z301Z401Z501Z601Z701Z801Z901ZA01ZB01Z",
   "C01ZD01ZE01ZF01ZG01ZH01ZI01ZJ01ZK01ZL01ZM01ZN01ZO01ZP01ZQ01Y101Y211Y401Y501Y601Y711Y901YA01YB",
   "01YC01YD11YF31YJ01YK01YL01YM01YN01YO01YP11Z101Z201Z301Z401Z501Z601Z701Z801Z901ZA01ZB01ZC01ZD0",
   "1ZE01ZF01ZG01ZH01ZI01ZJ01ZK01ZL01ZM01ZN01ZO01ZP01ZQ01Y101Y201Y301Y401Y501Y601Y701Y801Y901YA01",
   "YB01YC01YD01YE01YF01YG01YH01YI01YJ01YK01YL01YM01YN01YO01YP01YQ01Z101Z201Z301Z401Z501Z601Z701Z",
   "801Z901ZA01ZB01ZC01ZD01ZE01ZF01ZG01ZH01ZI01ZJ01ZK01ZL01ZM01ZN01ZO01ZP01ZQ01Y101Y201Y301Y401Y5",
   "01Y601Y701Y801Y901YA01YB01YC01YD01YE01YF01YG01YH01YI01YJ01YK01YL01YM01YN01YO01YP01YQ01Z101Z20",
   "1Z301Z401Z501Z601Z701Z801Z901ZA01ZB01ZC01ZD01ZE01ZF01ZG01ZH01ZI01ZJ01ZK01ZL01ZM01ZN01ZO01ZP01",
   "ZQ01Y101Y201Y301Y401Y501Y601Y701Y801Y901YA01YB01YC01YD01YE01YF01YG01YH01YI01YJ01YK01YL01YM01Y",
   "N01YO01YP01YQ01Z101Z201Z301Z401Z501Z601Z701Z801Z901ZA01ZB01ZC01ZD01ZE01ZF01ZG01ZH01ZI01ZJ01ZK",
   "01ZL01ZM01ZN01ZO01ZP01ZQ01Y101Y201Y301Y401Y501Y601Y701Y801Y901YA01YB01YC01YD01YE01YF01YG01YH0",
   "1YI01YJ01YK01YL01YM01YN01YO01YP01YQ01Z101Z201Z301Z401Z501Z601Z701Z801Z901ZA01ZB01ZC01ZD01ZE01",
   "ZF01ZG01ZH01ZI01ZJ01ZK01ZL01ZM01ZN01ZO01ZP01ZQ01Y101Y201Y301Y401Y501Y601Y701Y801Y901YA01YB01Y",
   "C01YD01YE01YF01YG01YH01YI01YJ01YK01YL01YM01YN01YO01YP01YQ01Z101Z201Z301Z401Z501Z601Z701Z801Z9",
   "01ZA01ZB01ZC01ZD01ZE01ZF01ZG01ZH01ZI01ZJ01ZK01ZL01ZM01ZN01ZO01ZP01ZQ01Y101Y201Y301Y401Y501Y60",
   "1Y701Y801Y901YA01YB01YC01YD01YE01YF01YG01YH01YI01YJ01YK01YL01YM01YN01YO01YP01YQ01Z101Z201Z301",
   "Z401Z501Z601Z701Z801Z901ZA01ZB01ZC01ZD01ZE01ZF01ZG01ZH01ZI01ZJ01ZK01ZL01ZM01ZN01ZO01ZP01ZQ01f",
   "H01nN21yH01yI01yJ01yK01yL01yM01yN01yO01yP01yQ01yR01yS01yT01yU01yV01z001z101yO01z301z401z501z6",
   "01z701z801z901em701zH01zI01zJ01zK01zL01zM01zN01zO01zP01zQ01zR01zS01zT01zU01zV01+001+101+201+3",
   "01+401+501+601+701+801+901em201zL01zO01zQ01+601+101+001yH01yI01yJ01yK01yL01yM01yN01yO01yP01yQ",
   "01yR01yS01yT01yU01yV01z001z101yO01z301z401z501z601z701z801z901em701zH01zI01zJ01zK01zL01zM01zN",
   "01zO01zP01zQ01zR01zS01zT01zU01zV01+001+101+201+301+401+501+601+701+801+901em201zL01zO01zQ01+6",
   "01+101+001yH01yI01yJ01yK01yL01yM01yN01yO01yP01yQ01yR01yS01yT01yU01yV01z001z101yO01z301z401z50",
   "1z601z701z801z901em701zH01zI01zJ01zK01zL01zM01zN01zO01zP01zQ01zR01zS01zT01zU01zV01+001+101+20",
   "1+301+401+501+601+701+801+901em201zL01zO01zQ01+601+101+001yH01yI01yJ01yK01yL01yM01yN01yO01yP0",
   "1yQ01yR01yS01yT01yU01yV01z001z101yO01z301z401z501z601z701z801z901em701zH01zI01zJ01zK01zL01zM0",
   "1zN01zO01zP01zQ01zR01zS01zT01zU01zV01+001+101+201+301+401+501+601+701+801+901em201zL01zO01zQ0",
   "1+601+101+001yH01yI01yJ01yK01yL01yM01yN01yO01yP01yQ01yR01yS01yT01yU01yV01z001z101yO01z301z401",
   "z501z601z701z801z901em701zH01zI01zJ01zK01zL01zM01zN01zO01zP01zQ01zR01zS01zT01zU01zV01+001+101",
   "+201+301+401+501+601+701+801+901em201zL01zO01zQ01+601+101+001+S01+T21XG01XH01XI01XJ01XK01XL01",
   "XM01XN01XO01XP01XG01XH01XI01XJ01XK01XL01XM01XN01XO01XP01XG01XH01XI01XJ01XK01XL01XM01XN01XO01X",
   "P01XG01XH01XI01XJ01XK01XL01XM01XN01XO01XP01XG01XH01XI01XJ01XK01XL01XM01XN01XO01XPYXG1XXG01XXH",
   "01XXI01XXJ01XXK01XXL01XXM01XXN01XXO01XXQ01XXR01XXS01XXU01XXV01XY001XY101XY201XY301XY401XY501X",
   "Y601XY701XY801XYB01XYD01XYE01Xfq901XcP01XYM01XYO01Xd901XbF01XcF01XXG01XXH01XXI01XXJ01XXK01XXL",
   "01XXM01XXN01XXO01XXQ01XXR01XXU01XXV01XY101XY301XY401XY501XY601XY701XY801XYA01XYB01XaH01XYM01X",
   "YL01XYV01XbB01XfoH01XbHZiI1Xn701Xn801XnC01XnF11Xo801XnI01XnD01XnN01XoA01Xo301Xo401Xo501Xo601X",
   "nJ01XnP01Xo101XnL01Xo201XnH01XnK01XnA01XnB01XnE01XnG01XnM01XnO01XnQ01XpE01XrQ01Xr101XpF11Xn80",
   "1XnC11Xo721XnD11XoA01Xo301Xo401Xo501Xo601XnJ01XnP01Xo101XnL01Xo211XnK01XnA01XnB01XnE11XnM11Xn",
   "Q61XnC41XnD11XoA11Xo411Xo601XnJ01XnP11XnL01Xo211XnK21XnE11XnM11XnQ11XrQ11XpF11Xn801XnC11Xo721",
   "XnD01XnN01XoA01Xo311Xo501Xo601XnJ01XnP01Xo101XnL01Xo211XnK01XnA01XnB01XnE11XnM01XnO01XnQ01XpE",
   "11Xr111Xn701Xn801XnC01XnF01Xo701Xo801XnI01XnD01XnN01XoA11Xo401Xo501Xo601XnJ01XnP01Xo101XnL01X",
   "o201XnH01XnK01XnA01XnB01XnE01XnG01XnM01XnO01XnQ51Xn801XnC01XnF11Xo801XnI01XnD01XnN01XoA11Xo40",
   "1Xo501Xo601XnJ01XnP01Xo101XnL01Xo201XnH01XnK01XnA01XnB01XnE01XnG01XnM01XnO01XnQo42XGXE02XGXC0",
   "2XHXC02XIXC02XJXC02XKXC02XLXC02XMXC02XNXC02XOXC02XPXC53X8Y1X903X8Y2X903X8Y3X903X8Y4X903X8Y5X9",
   "03X8Y6X903X8Y7X903X8Y8X903X8Y9X903X8YAX903X8YBX903X8YCX903X8YDX903X8YEX903X8YFX903X8YGX903X8Y",
   "HX903X8YIX903X8YJX903X8YKX903X8YLX903X8YMX903X8YNX903X8YOX903X8YPX903X8YQX903iWKYJiWL01Y301YI",
   "02Y3Y402YNYQ11Y101Y201Y301Y401Y501Y601Y701Y801Y901YA01YB01YC01YD01YE01YF01YG01YH01YI01YJ01YK0",
   "1YL01YM01YN01YO01YP01YQ02Y8YM02YDYM02YJY402YJYJ03YGYGYM02YNY3Q2YDY302YDY402YDYIX32Y4YAZF2iZRi",
   "YB02ibJibJ01ibLD1uoB01swN01q+C02ic6iaP01pqC01seQ01XYl301sf901pr401vn001yf101viP01qoD01tyC01qi",
   "D01vjG01qmT01-g201zeV01XZb901sdG01rXP01xuK01uqL01uwL01pm001pm901XaYA01tl601pnD01q-J01uu701XZh",
   "G01uoJ01+i101+pQ01rW801xq001vu901vu801zfJ01qpI01rjM01XagD43iWKvvCiWL03iWKpm9iWL03iWKpqCiWL03i",
   "WKsy9iWL03iWKybPiWL03iWKuoJiWL03iWKzsNiWL03iWKqsTiWL03iWKvgNiWL71tyN01q-FYiU1XG01XH01XI01XJ01",
   "XK01XL01XM01XN01XO01XP"]

/-- The classes of marks: how many code points are left out, how many more than one follow, and the
class of these. -/
def classText : List String :=
  ["u0Kd600d803cS00d800cO04cS01cA03cS01cA0AcS04103cS07d600dG00d602cS02d601cS12d603cS00d600d801cS00",
   "d600d901dA00d901dA00d90Cd6eJ4d6e90cS03d600cS02d600cU00cS05d605cS01d600cS01d600cU00d400d600A00",
   "B00C00D00E00F00G00H00I01J00K00L00M10N10O00P10d600cS10IY87d600U00V00X0XG0R00S00T00U00V00X000X1",
   "00X201d601cS04d600cS01d600cSG0X3Z56d623d600cS00d621d610cS01d600cSX30X4U0d600cS01d600cS01d602c",
   "S00d601cS00d600cS02d600cS00d600cS00d600cS00d600cS01d6b06d600cS00d690cSO3d618d612d614d6XB2cSXR",
   "1d602cS03d6XA4d604cS0Dd610cS01d600cS01d600cS02d602cS00R00S00T02d600cS01d601cS04d6XS07G0930d60",
   "0cS01d6Z707G09XG0d6XT07G09ZE07G09ZE07G09ZV09ZE07G0970YK00YRZ507G09ZD19G09ZS09ZD1Z7009D3ZBZC1Z",
   "M009D3ZQYC1cSR0cS10cS10cOXN0a100a210a453a220a211d600911d6XU0cSZG07119YI0cSsF2d6zK19U09aT09A0d",
   "6cB0d4aF0cU00d600cScR0d600cSY709K7d620cSXG4d605cS01d600cS11cS01d601cS04d600cS03d6Z507F09X60d6",
   "00cS06d6XM19XQ07B19Y307aO2d610104cS01d603cS00d616140cS60d631d6c61d600cS06d600cS01d600dA00cM00",
   "cS00cA0X4d600d801d400cS00cQ00d600d900cS00d600cSsG1d601103d602101d640d631100d600cS00d601103cS0",
   "0d6Y-U2d6aD09Z0Vd6nA0cQ00d400d800cU01d0Z918zkK0d649d6X01d6YG1d6eK09X509aN09RHd6XP2cSX509YV07C",
   "09dF0d611d600cS21d651d610d6XK09dM09pvG0Qu16d606cS01d6+D0cSd20cSaL4d6XqI0cS10d6X80d600100cS409",
   "b50d600cSnT3d6Y14d6fT1d6YG2cSY61cS02d600cS00d603cSXH0d600cS00d600cSc009X909E09XP09007Y52d6XG1",
   "9XU07YC09907ZA09007bI07009YG17G09O6d634d6YP29ZH09307N0d6Z309007dR09007ZU09ZM09007ZJ09eD09007e",
   "219407aS09YJ09I09YH09j509e207119YH09j919mlC09Yk041XR6d6XbP16pbC01bc61cO02130d204cO87cS24d601c",
   "SU3d6aK2d6ZjR6d61Gd626d611d614d6Z40d6b06d6hN0d6XT3d6lS1d800cS00d6dU0d600cSt06cSZD5d6007"]

/-- The code points that are never made up again, though they are made of two. -/
def excludedText : List String :=
  ["w40XmJ7ZS110YJ020X2220dT1-5090404040C090111080H090404040C0ZzN0101010101010XT0D0107070707020A01",
   "0fF0YjG0XqY0010AC1410111118XrmF6YM5"]

/-- The entries of a table from a code point on, so many at most. -/
def entriesFrom : Nat → Nat → List Nat → List (Nat × List Nat)
  | fuel + 1, start, gap :: count :: rest =>
    let c := start + gap
    (c, rest.take count) :: entriesFrom fuel (c + 1) (rest.drop count)
  | _, _, _ => []

/-- The entries of a table. -/
def entries (lines : List String) : List (Nat × List Nat) :=
  let ns := Packed.numbers lines
  entriesFrom ns.length 0 ns

/-- The classes of marks from a code point on. -/
def classesFrom : Nat → List Nat → List (Nat × Nat)
  | start, gap :: more :: k :: rest =>
    (List.range (more + 1)).map (fun i => (start + gap + i, k))
      ++ classesFrom (start + gap + more + 1) rest
  | _, _ => []

/-- What each character is made of at first sight. -/
def first : Std.HashMap Nat (List Nat) := .ofList (entries firstText)

/-- The full decompositions that change the shape. -/
def shapes : Std.HashMap Nat (List Nat) := .ofList (entries shapeText)

/-- The classes of marks. -/
def classes : Std.HashMap Nat Nat := .ofList (classesFrom 0 (Packed.numbers classText))

/-- The characters that two others make up, by these. -/
def pairs : Std.HashMap (Nat × Nat) Nat :=
  let excluded := Ranges.ofGaps 0 (Packed.numbers excludedText)
  .ofList ((entries firstText).filterMap fun (c, parts) =>
    match parts with
    | [a, b] => if excluded.has c then none else some ((a, b), c)
    | _ => none)

/-! ### Korean syllables -/

/-- The first syllable, and the code points one before the first leading consonant, the first vowel
and the first final consonant. -/
def syllable : Nat := 0xAC00
def lead : Nat := 0x1100
def vowel : Nat := 0x1161
def final : Nat := 0x11A7

/-- How many there are of each. -/
def leads : Nat := 19
def vowels : Nat := 21
def finals : Nat := 28

/-- The parts of a syllable. -/
def syllableParts? (c : Nat) : Option (List Nat) :=
  if c < syllable || syllable + leads * vowels * finals ≤ c then none
  else
    let n := c - syllable
    let parts := [lead + n / (vowels * finals), vowel + n / finals % vowels]
    some (if n % finals = 0 then parts else parts ++ [final + n % finals])

/-- The syllable that two parts make up: a consonant and a vowel, or such a pair and another
consonant. -/
def syllableOf? (a b : Nat) : Option Nat :=
  if lead ≤ a && a < lead + leads && vowel ≤ b && b < vowel + vowels then
    some (syllable + ((a - lead) * vowels + (b - vowel)) * finals)
  else if syllable ≤ a && a < syllable + leads * vowels * finals && (a - syllable) % finals = 0
      && final < b && b < final + finals then
    some (a + (b - final))
  else none

/-! ### Decompositions -/

/-- What a code point is made of, looked up again so many times. -/
def expand : Nat → Nat → List Nat
  | 0, c => [c]
  | fuel + 1, c =>
    match first[c]? with
    | some parts => parts.flatMap (expand fuel)
    | none => [c]

/-- The code points that one is made of in the end. -/
def canonical (c : Nat) : List Nat := (syllableParts? c).getD (expand 8 c)

/-- The code points that one is made of in the end, of whatever shape they are. -/
def full (c : Nat) : List Nat := (shapes[c]?).getD (canonical c)

/-- The code point that two others make up. -/
def composed? (a b : Nat) : Option Nat := (pairs[(a, b)]?).or (syllableOf? a b)

/-- The class by which a mark is ordered; zero for what is no mark. -/
def markClass (c : Nat) : Nat := classes.getD c 0

end Decomposition

end ScriptHost
