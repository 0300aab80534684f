import ScriptHost.Text.Ranges

/-!
# Scripts

The scripts in which languages are written.  Each code point belongs to one script at most; some
that belong to a script, or to none in particular, are used in others too.

* `WritingSystem`: the scripts;
* `WritingSystem.named?`: the script of a name;
* `WritingSystem.codes`, `WritingSystem.allCodes`: the code points that belong to a script, and
  those that are used in it.
-/

namespace ScriptHost

namespace WritingSystem

/-- The names of the scripts. -/
def names : List (List String) :=
  [["Adlm", "Adlam"], ["Aghb", "Caucasian_Albanian"], ["Ahom", "Ahom"], ["Arab", "Arabic"],
    ["Armi", "Imperial_Aramaic"], ["Armn", "Armenian"], ["Avst", "Avestan"], ["Bali", "Balinese"],
    ["Bamu", "Bamum"], ["Bass", "Bassa_Vah"], ["Batk", "Batak"], ["Beng", "Bengali"],
    ["Bhks", "Bhaiksuki"], ["Bopo", "Bopomofo"], ["Brah", "Brahmi"], ["Brai", "Braille"],
    ["Bugi", "Buginese"], ["Buhd", "Buhid"], ["Cakm", "Chakma"], ["Cans", "Canadian_Aboriginal"],
    ["Cari", "Carian"], ["Cham", "Cham"], ["Cher", "Cherokee"], ["Chrs", "Chorasmian"],
    ["Copt", "Coptic", "Qaac"], ["Cpmn", "Cypro_Minoan"], ["Cprt", "Cypriot"], ["Cyrl", "Cyrillic"],
    ["Deva", "Devanagari"], ["Diak", "Dives_Akuru"], ["Dogr", "Dogra"], ["Dsrt", "Deseret"],
    ["Dupl", "Duployan"], ["Egyp", "Egyptian_Hieroglyphs"], ["Elba", "Elbasan"],
    ["Elym", "Elymaic"], ["Ethi", "Ethiopic"], ["Geor", "Georgian"], ["Glag", "Glagolitic"],
    ["Gong", "Gunjala_Gondi"], ["Gonm", "Masaram_Gondi"], ["Goth", "Gothic"], ["Gran", "Grantha"],
    ["Grek", "Greek"], ["Gujr", "Gujarati"], ["Guru", "Gurmukhi"], ["Hang", "Hangul"],
    ["Hani", "Han"], ["Hano", "Hanunoo"], ["Hatr", "Hatran"], ["Hebr", "Hebrew"],
    ["Hira", "Hiragana"], ["Hluw", "Anatolian_Hieroglyphs"], ["Hmng", "Pahawh_Hmong"],
    ["Hmnp", "Nyiakeng_Puachue_Hmong"], ["Hung", "Old_Hungarian"], ["Ital", "Old_Italic"],
    ["Java", "Javanese"], ["Kali", "Kayah_Li"], ["Kana", "Katakana"], ["Kawi", "Kawi"],
    ["Khar", "Kharoshthi"], ["Khmr", "Khmer"], ["Khoj", "Khojki"], ["Kits", "Khitan_Small_Script"],
    ["Knda", "Kannada"], ["Kthi", "Kaithi"], ["Lana", "Tai_Tham"], ["Laoo", "Lao"],
    ["Latn", "Latin"], ["Lepc", "Lepcha"], ["Limb", "Limbu"], ["Lina", "Linear_A"],
    ["Linb", "Linear_B"], ["Lisu", "Lisu"], ["Lyci", "Lycian"], ["Lydi", "Lydian"],
    ["Mahj", "Mahajani"], ["Maka", "Makasar"], ["Mand", "Mandaic"], ["Mani", "Manichaean"],
    ["Marc", "Marchen"], ["Medf", "Medefaidrin"], ["Mend", "Mende_Kikakui"],
    ["Merc", "Meroitic_Cursive"], ["Mero", "Meroitic_Hieroglyphs"], ["Mlym", "Malayalam"],
    ["Modi", "Modi"], ["Mong", "Mongolian"], ["Mroo", "Mro"], ["Mtei", "Meetei_Mayek"],
    ["Mult", "Multani"], ["Mymr", "Myanmar"], ["Nagm", "Nag_Mundari"], ["Nand", "Nandinagari"],
    ["Narb", "Old_North_Arabian"], ["Nbat", "Nabataean"], ["Newa", "Newa"], ["Nkoo", "Nko"],
    ["Nshu", "Nushu"], ["Ogam", "Ogham"], ["Olck", "Ol_Chiki"], ["Orkh", "Old_Turkic"],
    ["Orya", "Oriya"], ["Osge", "Osage"], ["Osma", "Osmanya"], ["Ougr", "Old_Uyghur"],
    ["Palm", "Palmyrene"], ["Pauc", "Pau_Cin_Hau"], ["Perm", "Old_Permic"], ["Phag", "Phags_Pa"],
    ["Phli", "Inscriptional_Pahlavi"], ["Phlp", "Psalter_Pahlavi"], ["Phnx", "Phoenician"],
    ["Plrd", "Miao"], ["Prti", "Inscriptional_Parthian"], ["Rjng", "Rejang"],
    ["Rohg", "Hanifi_Rohingya"], ["Runr", "Runic"], ["Samr", "Samaritan"],
    ["Sarb", "Old_South_Arabian"], ["Saur", "Saurashtra"], ["Sgnw", "SignWriting"],
    ["Shaw", "Shavian"], ["Shrd", "Sharada"], ["Sidd", "Siddham"], ["Sind", "Khudawadi"],
    ["Sinh", "Sinhala"], ["Sogd", "Sogdian"], ["Sogo", "Old_Sogdian"], ["Sora", "Sora_Sompeng"],
    ["Soyo", "Soyombo"], ["Sund", "Sundanese"], ["Sylo", "Syloti_Nagri"], ["Syrc", "Syriac"],
    ["Tagb", "Tagbanwa"], ["Takr", "Takri"], ["Tale", "Tai_Le"], ["Talu", "New_Tai_Lue"],
    ["Taml", "Tamil"], ["Tang", "Tangut"], ["Tavt", "Tai_Viet"], ["Telu", "Telugu"],
    ["Tfng", "Tifinagh"], ["Tglg", "Tagalog"], ["Thaa", "Thaana"], ["Thai", "Thai"],
    ["Tibt", "Tibetan"], ["Tirh", "Tirhuta"], ["Tnsa", "Tangsa"], ["Toto", "Toto"],
    ["Ugar", "Ugaritic"], ["Vaii", "Vai"], ["Vith", "Vithkuqi"], ["Wara", "Warang_Citi"],
    ["Wcho", "Wancho"], ["Xpeo", "Old_Persian"], ["Xsux", "Cuneiform"], ["Yezi", "Yezidi"],
    ["Yiii", "Yi"], ["Zanb", "Zanabazar_Square"], ["Zinh", "Inherited", "Qaai"], ["Zyyy", "Common"],
    ["Gara", "Garay"], ["Gukh", "Gurung_Khema"], ["Krai", "Kirat_Rai"], ["Onao", "Ol_Onal"],
    ["Sunu", "Sunuwar"], ["Todr", "Todhri"], ["Tutg", "Tulu_Tigalari"]]

end WritingSystem

/-- A script, by its place among the names. -/
structure WritingSystem where
  place : Nat
  deriving DecidableEq, Repr

namespace WritingSystem

/-- The script of a name. -/
def named? (name : String) : Option WritingSystem :=
  (names.findIdx? fun ns => ns.contains name).map fun i => ⟨i⟩

/-- The length of each run of code points of one script, and one more than the place of that script;
zero stands for code points of no script. -/
def runs : List String :=
  ["Y1b3QY66b3QY6XFb31Y6Fb31Y65b3NY61b3VY61b3k1Y6X7b35Y65b32EKb3ZGb24XC1b33XC204XC1b31XC401XC1b31X",
   "C1b33XC101XC10KXC10XVXCEPGXCa5S2b2b9S10X6620XI6203610XNXJ80RXJ406XJB0541b3641b3E41b3341b3X041",
   "b3A4Bb2Q41b2ZC41b3X24Ea710XSa7203a7XG4XIaIE0XRZ3203Z3XEZO20FZO10SYG201YG10Ba750V4102450YB41b3",
   "T4YHT4b2FT2b3QT4C108C202C20MC107C101C304C209C202C204C801C402C105C20PC203XE106XE402XE20MXE107X",
   "E102XE102XE102XE201XE105XE402XE203XE301XE704XE101XE70HXEA03XD109XD103XD10MXD107XD102XD105XD20",
   "AXD103XD103XD201XDF04XD20CXD707XD103Z8108Z8202Z820MZ8107Z8102Z8105Z8209Z8202Z8203Z8703Z8402Z8",
   "105Z820IZ8A02aC106aC303aC104aC302aC101aC102aC302aC303aC30CaC405aC303aC104aC201aC601aCE0LaC50D",
   "aF103aF10NaF10GaF209aF103aF104aF702aF103aF201aF204aF20AaF709aFDY2103Y210NY210AY2105Y2209Y2103",
   "Y2104Y2702Y2602Y2104Y220AY2103Y2C0DYN103YN10XJYN103YN106YN40GYN20QYN103a010Ia030Oa0109a0101a0",
   "207a0301a0406a0101a0108a060Aa0203a0C0XQaJ401b3SaJX502Y5101Y5105Y510OY5101Y510NY5205Y5101Y5107",
   "Y510AY5204Y5X00Y8aK10X4aK40X7aK10X4aK10FaK107aK4b32aKX50b0YTX6X6101X6501X620XBX61b34X6e0XFY9X",
   "5104X5207X5101X5104X520X9X5104X520X1X5104X5207X5101X5104X520FX510XPX5104X520Y3X520X0X530QX560",
   "YMN206N20q0KTZ530YBZN3b3BZN70MaH901aHLXH2b390KIC0Da8103a8102a8C0YUXV20AXV60AXV602YP2b31YP1b3K",
   "YP60YPYP70XBYP50Y6KA0VY810CY840CY8401Y830CY8UaA205aAB0XCaB40QaB60BaB302aBX0XVSH202HXVY410TY42",
   "0BY460AY460EY420Vb2XH0YD810XI8Y0a5XKB804BXOY730FY7303Y7XGZ6BS50XBX6203X68a5803b21b3Db21b37b24",
   "b31b26b31b23b32b21b350X6Y65XC1SXHY65XC4Y65XCDY61SY6Y61XCY0b2e0Y6MXC206XC20X6XC206XC208XC101XC",
   "101XC101XC10VXC20XLXC10FXC10EXC206XC10JXC203XC109XC10Cb32b2YNb310Bb31Y620Bb31Y6Fb310DY630X1b3",
   "F0X1b2F0X6b31XC3b32Y66b31Y6Rb31Y6Hb3X9Y63b340qQb3M0Bb3L0z0b3e0GpKb320X0b310Z9b3Z0X7X0Y6ZKP507",
   "PX6X6101X6501X620XOaG702aGE01aGNX5907X5107X5107X5107X5107X5107X5107X5107X510X0SYUb3X20QXG10YP",
   "XGC0cMXGQ0Lb31XG1b31XGPb39XG4b22XF8b34XG4b310YMXK202b22b33XK1b3YQXS2b33XS50XBE10YUXF10Gb3X0EX",
   "6b3901b3GXSVXF10Y0b3VXFYHb3XFXS1b3YOXSb8b3ck0XGY0b3qm0XGXaDb030XNb090XGYBfCaPK0Z0SYO980X2b3Z6",
   "Y63b3Y3Y6202Y6101Y6108Y6L0EY6XDa630Ab360XOZF80Y6ZQ80CZQ60X0TXEXR1b31XRX4ZLB01ZLTXF30YEXQ101b3",
   "AXQ402XQVYT10XNM90EM20AM204MX0YTY3aEO05aENYRA06X5206X5206X5907X5107X510XBY61b39Y61XC4Y62b340Y",
   "GNXEYR20AYR60gz4XFC0NXF40XHXFee40hEXG20ZAXGX607Y6C05650QXJ105XJ101XJ102XJ102XJ10AXJZJ4G0hB42b",
   "3YG420XM47014X00G4Gb2Ab360Eb22SX3b310Jb3104b3405410a74201b310X0b3QY66b3QY6Bb3AXS1b3XDXS2b3VXF",
   "306XF206XF206XF203XF307b3107b3A05b320CYA10QYA10JYA102YA10FYA20EYAX20ZRYA503b340XDb3309b3YFXC1",
   "0Db3301XCXF0XDb31b2a20TYC30XHLF01b2Rb340X4XP903XPRXA50XBZE50UaO101aOX4aT40EaTXA0YGX0XGZSUZA20",
   "AZA60X4Z940X4Z940X8X380XK2B012BaQ10FaQ107aQ102aQ10BaQ10FaQ107aQ102aQ30XKb9C0fNY990MY9A08Y9O06",
   "Y610XAY6109Y6Y506R201R10XCR102R301R201RM51095X0ZCVZ1809Z1XG0JXI102XI505XISZI301ZIQYD501YDY00X",
   "0YMOYL40KYL20XEYL4XU102XU508XU103XU10TXU203XU40AXU709XU70X0ZPX0Z0X00X7YH40CYH90XM73077MZK208Z",
   "KJZG508ZGIZH704ZHC07ZHYG0Y9Z7XN0XJXOD0XJXO706XOX8ZM80AZM60X6b430Tb4802b4cG0V410XAaV103aV202aV",
   "G034XN044X8a280XAa1M0QZBX60SOK0NX490YEF40X4F901FY3Y3A01Y320Pa370Aa360XLJ10IJ80X7YE90Z0ZT10Ka0",
   "B0IY010XFY0XU07YS101YS104YS10FYS10BYS60XRZV50AZV604XB108XB202XB20MXB107XB102XB105XB101b29XB20",
   "2XB203XB201XB601XB507XB207XB305XBB0AbA101bA201bA10X6bA10AbA101bA201bA104bA10AbA102bA802bAT0YS",
   "Z2105Z2U0Y8aL80AaLb60XMZU20X6ZUX20Y5YOB0AYO60DYPJ0XQa960Aa960KYTS0R320F340N3bP0XSVZ40YJaRC01a",
   "R7U201U208U102U10UU102U20CU90AUY608YV20XEYV20BYVR0Y8b180YJa4D0GKXPZD70ATbM0X2b8E0Ab8609D10XDD",
   "10EDA0TD30X0YI20MYI10EYIY907X9102X910XCX9301X9102X9109X980AX9606X8102X810X5X8102X8106X870AX8f",
   "M0PYF70HXT10X9XT30TXTYL01YBF0XIaCD01aCyQaUZ60ZFaU105aUB0c4aUYoC0Z3QD0XYMX2A0ZyRX250o7XLcrP0XQ",
   "b5Xs60nP970VYQ10AYQ402YQYFaM10AaM60UA206AA0Y6XMA0AXM107XM10LXM50JXMjG0XQb6c60YRYJZ50YBZJ40XPZ",
   "J70HZJY001aD1Z42XG1Y1B02XGE0b-OaD80u0aDkMY1X901Y19aDet704XS107XS102XS101XSeVXK3XSF01XKT03XK20",
   "1XSE04XS80iCZ4Ye40ZBX150DX1309X170AX1204X14b3ZwS0dQb360jKb3YC0XEb220Nb290ZKb3XS0dMb3A0X7b320X",
   "Ub33b2Hb38b22b37b2Ub34b2XTb3L0Y6XCZQ0Kb3C0Kb3C0YNb390Pb3a70YLb310Y7b3102b3201b3202b3204b310Cb",
   "3101b3107b310Y1b3104b3208b3107b310Sb3104b3105b3101b3307b310gKb320f4b320XIb3qCZRF05ZR10FZRXYG0",
   "VY6606Y6cL07X710HX7207X7102X7105X750XUSX101SZG0XDXN30EXN20AXN402XNg00VaNH0XQaS501aSkG0XAYUcM0",
   "XBb7401b7l007X5104X5102X510FX510c5YK20GYKX90YC140A14021uH0Y4b3YC0XTb3c204410R410241014201410A",
   "4104410141014601440141014101410341024101420141014101410141014102410142044107410441044101410A4",
   "10H45034105410H4XK024eE0XCb340Z4b3C0Fb320Fb310Fb310X5b3A0bEb3XO0Qb31XK2b3D0XCb3409b3702b3E06b",
   "3aQ0+Ob340Hb330Db330ZNb340YVb360Cb3401b3F0Cb340XOb380Ab360X8b380Ub320Cb3402b3XU0gKb3C0Eb320Db",
   "330Ab350XOb370Fb320Bb3609b370aJb310Z6b3XW60Xft0XGX00aXQXG60cUXG20bq2XGE0dfHXGF0pEXGYj20mUXGXl",
   "20awBXG50aZ0XGrtYH01b3U0Z0b3a00dGb2b-mG0"]

/-- The runs of scripts from a code point on, as ranges. -/
def rangesFrom : Nat → List Nat → List (Nat × Nat × Nat)
  | start, length :: place :: rest =>
    (place, start, start + length - 1) :: rangesFrom (start + length) rest
  | _, _ => []

/-- The ranges of code points of one script each, with one more than its place. -/
def table : List (Nat × Nat × Nat) := rangesFrom 0 (Packed.numbers runs)

/-- The code points that belong to a script. -/
def codes (w : WritingSystem) : Ranges :=
  table.filterMap fun (place, range) => if place = w.place + 1 then some range else none

/-- The code points used in scripts that they do not belong to: how many are left out, how many more
than one follow, and how many scripts there are, with one more than the place of each. -/
def guestRuns : List String :=
  ["bN0G7LPX1X3X6X7X8XAXCXGY6YDYEZEZSm407CSTY6YBaJaNA02EY6122EY6102Y6YB902Y6aJ102EY6X608NPSXCY6ZEa",
   "Ab8008NSXCY6Z9aAb8b9004NSY6aG005X7Y6a7aJb800B2NPSXAXCY6Z9a7aGb9006PX3X7XAXSY6005SXCY6ZEaG009P",
   "X1XJY6ZEa7aAaGb900B6SX1XAXCXJY6ZEa7aAaG002Y6aG003X1Y6a7004NSY6Z9003NY6aA002Y6b8002X5Y6102Y6b8",
   "003SY6b9104XCY6ZEb9F06NX1XSY6a7aG004NX1Y6a7002Y6a7703Y6a7b8002Y6a7103NY6a70072NXAY6a7aJb8G01X",
   "C201XCI02Y6Z95032Y6b94C1Y6402PXC001PeD01ZE001X7012SY6001X7e102X6X7a2074Z3ZMa7aIaVb4E074Z3ZMa7",
   "aIaVb4002a7aI20814Z3ZMa7aIaVb4X00914YGYHZBZHZMa1a7AA24a7A92aIaV6024a7Z301ZMpS0FCTXBXDXEY2Y6YN",
   "YVZ2Z8ZTaCaFaL00DCTXBXDXEY2Y6YNZ2Z8aCaFaLH0LCTVX8X9XBXDXEY2YEYNYVZ8ZVa0a6a9aCaFaLb700NCTVX8X9",
   "XBXDXEY2Y8YEYNYVZ8ZVa0a6a9aCaFaLb5b7093VY3YEZM92Ja6ZM91YSZM91Y0dMD1XBdI92YVbAwG92JaAbH03X6X7Y",
   "6XlF21ZNY714IXHa8aHcB12YPZF102YPZFXcA04CTXBY2001T004CTXBY2003TXBY2001T005CTZ2aFaL003CTaF003TZ",
   "2ZT004CTZ2aF002TZT006TY2YNZ8aCaF001T012TZT011T002TZT002CT003TZ2aL051T003TYVZ2003CTZT002TZ2001",
   "T004CTZ2ZT031T00BCTXBY2YNYVZ8a0aFaLbA002TXB004TXBY2bA012CT001C012TXB001YVc511XCXM03SY6a7101a7",
   "nK03Y6YPZFV0214A06LX6X7XOYCZ7204LXCXOYMaI03TXBY6Zf602PY6O027Z70077LX6XOY3YDZOA01X140314XO102S",
   "X7jCF2XGaD107EXFXGXKXSYPb0008EXFXGXKXSYPZFb0005EXFXGXKXS201XG118EXFXGXKXSYPaKb0019EXFXGXKXSYB",
   "YPaKb0056EXFXGXKXSb0105EXFXGXKXS076EXFXGXKXSb0035EXFXGXKXSA32EXG205EXFXGXKXS042XKXS105EXFXGXK",
   "XS413XGXKXS011XGYP32XKXS302XKXSYQ06EXFXGXKXSb0002XKXSaJF1XGX0X51XG902XGaDXGX71XGXOXG1XGFB1XGX",
   "J01XGYOO1XGA41XGZ0U1XGypG01X7aG72XGY6f82GTVXDXEY0Y2Y3YEYNYOYVZTZVa9aLbA02FTVXDXEY0Y2Y3YEYOYVZ",
   "TZVa9aLbA01BTVXDXEY0Y3YEYOZVa9aL00CTVXDXEY0Y3YEYOZTZVa9aL00BTVXDXEY0Y3YEYOZVa9aLbN02CbA101aCX",
   "Q03XRY6YTb002HXQqxE124Z3bI01aIA01aIY715EXFXGXKXSeQ46EXFXGXKXSb0A02XKXSXD12XKXSh013QRYA002RYA4",
   "XC3RY9YA382RYAj0R24PX-M01ZBYWE01aC101aCXN02XBaC001aCZaJ11XB101XBXdcC31X1brSH1XGdsU11XG"]

/-- The guests of scripts from a code point on, in so many ranges at most. -/
def guestsFrom : Nat → Nat → List Nat → List (List Nat × Nat × Nat)
  | fuel + 1, start, gap :: more :: count :: rest =>
    let first := start + gap
    (rest.take count, first, first + more) :: guestsFrom fuel (first + more + 1) (rest.drop count)
  | _, _, _ => []

/-- The ranges of code points used in scripts that they do not belong to. -/
def guests : List (List Nat × Nat × Nat) :=
  let ns := Packed.numbers guestRuns
  guestsFrom ns.length 0 ns

/-- Whether a script holds code points of no script in particular, or marks of any. -/
def isGeneral (w : WritingSystem) : Bool := w = named? "Common" || w = named? "Inherited"

/-- The code points used in a script.  Those of no script in particular that are used in some
scripts only count for these. -/
def allCodes (w : WritingSystem) : Ranges :=
  if w.isGeneral then w.codes.minus (guests.map Prod.snd)
  else
    let here := guests.filterMap fun (places, range) =>
      if places.contains (w.place + 1) then some range else none
    (w.codes ++ here).mergeSort fun r q => r.1 ≤ q.1

end WritingSystem

end ScriptHost
