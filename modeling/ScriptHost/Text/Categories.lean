import ScriptHost.Text.Ranges

/-!
# General categories

Each code point has one general category.

* `Category`: the categories;
* `Category.named?`: the categories that a name covers;
* `Category.codes`: the code points of some categories.
-/

namespace ScriptHost

/-- A general category. -/
inductive Category
  | unassigned | upper | lower | title | modifier | otherLetter | nonspacing | spacing | enclosing
  | digit | letterNumber | otherNumber | connector | dash | opening | closing | initialQuote
  | finalQuote | otherPunctuation | math | currency | modifierSymbol | otherSymbol | space | line
  | paragraph | control | format | surrogate | privateUse
  deriving DecidableEq, Repr

namespace Category

/-- The categories, in the order in which the table counts them. -/
def all : List Category :=
  [.unassigned, .upper, .lower, .title, .modifier, .otherLetter, .nonspacing, .spacing, .enclosing,
    .digit, .letterNumber, .otherNumber, .connector, .dash, .opening, .closing, .initialQuote,
    .finalQuote, .otherPunctuation, .math, .currency, .modifierSymbol, .otherSymbol, .space, .line,
    .paragraph, .control, .format, .surrogate, .privateUse]

/-- The short name of a category. -/
def short : Category → String
  | unassigned => "Cn"
  | upper => "Lu"
  | lower => "Ll"
  | title => "Lt"
  | modifier => "Lm"
  | otherLetter => "Lo"
  | nonspacing => "Mn"
  | spacing => "Mc"
  | enclosing => "Me"
  | digit => "Nd"
  | letterNumber => "Nl"
  | otherNumber => "No"
  | connector => "Pc"
  | dash => "Pd"
  | opening => "Ps"
  | closing => "Pe"
  | initialQuote => "Pi"
  | finalQuote => "Pf"
  | otherPunctuation => "Po"
  | math => "Sm"
  | currency => "Sc"
  | modifierSymbol => "Sk"
  | otherSymbol => "So"
  | space => "Zs"
  | line => "Zl"
  | paragraph => "Zp"
  | control => "Cc"
  | format => "Cf"
  | surrogate => "Cs"
  | privateUse => "Co"

/-- The long names of a category. -/
def long : Category → List String
  | unassigned => ["Unassigned"]
  | upper => ["Uppercase_Letter"]
  | lower => ["Lowercase_Letter"]
  | title => ["Titlecase_Letter"]
  | modifier => ["Modifier_Letter"]
  | otherLetter => ["Other_Letter"]
  | nonspacing => ["Nonspacing_Mark"]
  | spacing => ["Spacing_Mark"]
  | enclosing => ["Enclosing_Mark"]
  | digit => ["Decimal_Number", "digit"]
  | letterNumber => ["Letter_Number"]
  | otherNumber => ["Other_Number"]
  | connector => ["Connector_Punctuation"]
  | dash => ["Dash_Punctuation"]
  | opening => ["Open_Punctuation"]
  | closing => ["Close_Punctuation"]
  | initialQuote => ["Initial_Punctuation"]
  | finalQuote => ["Final_Punctuation"]
  | otherPunctuation => ["Other_Punctuation"]
  | math => ["Math_Symbol"]
  | currency => ["Currency_Symbol"]
  | modifierSymbol => ["Modifier_Symbol"]
  | otherSymbol => ["Other_Symbol"]
  | space => ["Space_Separator"]
  | line => ["Line_Separator"]
  | paragraph => ["Paragraph_Separator"]
  | control => ["Control", "cntrl"]
  | format => ["Format"]
  | surrogate => ["Surrogate"]
  | privateUse => ["Private_Use"]

/-- The names of families of categories; the short names of a family's categories begin with the
letter that is its own short name. -/
def families : List (Char × List String) :=
  [('L', ["L", "Letter"]), ('M', ["M", "Mark", "Combining_Mark"]), ('N', ["N", "Number"]),
    ('P', ["P", "Punctuation", "punct"]), ('S', ["S", "Symbol"]), ('Z', ["Z", "Separator"]),
    ('C', ["C", "Other"])]

/-- The categories that a name covers. -/
def named? (name : String) : Option (List Category) :=
  if name = "LC" || name = "Cased_Letter" then some [upper, lower, title]
  else
    match families.find? fun (_, names) => names.contains name with
    | some (letter, _) => some (all.filter fun c => c.short.toList.head? = some letter)
    | none => (all.find? fun c => c.short = name || c.long.contains name).map ([·])

/-- The length of each run of code points of one category, and the place of that category in
`all`. -/
def runs : List String :=
  ["X0Q1N3I1K3I1E1F1I1J1I1D2IA92I3J2IQ11E1I1F1L1C1LQ21E1J1F1JX1Q1N1I4K1M1I1L1M151G1J1R1M1L1M1J2B1L",
   "122I1L1B151H3B1IN11J71O21J8211121112111211121112111211121112111211121112111211121112111211121",
   "112111211121112111211121112111211121112111211221112111211121112111211121112112211121112111211",
   "121112111211121112111211121112111211121112111211121112111211121112111211121112211211121132211",
   "211122112312241122112313221122112111211122112112211122112311211122122151132451113121113121113",
   "121112111211121112111211121112112211121112111211121112111211121112112211131211123112111211121",
   "112111211121112111211121112111211121112111211121112111211121112111211121112111211121112111211",
   "12111211121172211221221112411211121112111211Y5225Q2I44LC4EL547L141L14HLZG611121112141L1112201",
   "4321I11402L111I311011102112H11091X32112231321112111211121112111211121112111211121112111211521",
   "1121J11122122XJ1XG2111211121112111211121112111211121112111211121112111211121112111211121M5628",
   "111211121112111211121112111211121112111211121112111211121112111211121112111211121112111211121",
   "112111211121112211211121112111211121112112211121112111211121112111211121112111211121112111211",
   "121112111211121112111211121112111211121112111211121112111211121112111211121112111211121112111",
   "211121112111211121112111211121112111211121112111210X6120146IX921I1D202M1K10XD61D161I261I261I1",
   "680R540452IB06R3J2I1K2I2MB61I1R3IX0514A5L6A94I2516Z351I15761R1M6624261M4625A9352M15EI101R1516",
   "U5R620YP5B615E0A9X1596241M3I1420162KM54614961436145620FI10P536201I10B550O51L65102R5096X9514O6",
   "1RX0617XM51617161537864716271576A5262IA91I14F516271085202520M51075101530452016153746202720271",
   "6158017402510352620A9252K6B1M1K151I162026171065402520M510751025102510252016103726402620363016",
   "7045101570A92635161IA026171095103510M510751025105520161537561026171027162015F0252620A91I1K701",
   "5661016271085202520M5107510251055201615171617462027202716702617402510352620A91M156BA016151065",
   "303510453025101510253025303530C540271627303710371620156017E0A93B6M1K1M5016371685103510N510G52",
   "0161536471036104670261035201520252620A9701I7B1M1516271I85103510N510A5105520161517165710162710",
   "27267027602510252620A9102517C0262795103510X95261537461037103716151M4035177B352620A99B1M651016",
   "2710I530O510951015207530164037361016108760A920271IC0XG5162576401K6514861IA92IX50251015105510O",
   "5101510A51625961520551014107610A92045X00153MFI1M1I3M266MA9AB1M161M161M161E1F1E1F278510X4540E6",
   "17561I2655B610X46108M166M102M5I4M2IX50XB5274617661726272615A96I6527264536153725773546D5162726",
   "67161517A937162MX611011501120XB21I1432g95104520751015104520X95104520X15104520751015104520F510",
   "XP5104520Y3520369IKB30G5AM60YM12062201DpC51M1IH51NQ51E1F30YB53I3A8570I5361790J526172I90I526C0",
   "D510351026C0XK5261776871627B63I143I1K151620A960AB606I1D4I361R16A960X3514XL5705526X25161550Y65",
   "A0V510364726374027166736401M302IA9U52055B0XC540Q560A91B30X2MN5262716202IXL5171617761016171627",
   "8667A62016A960A9607I146I20E618G6XH04617XF5161756171657162785102IA97IAM969M3I2617U517462726173",
   "625A9XC51617263716173627804IX4587862726305IA93035A9U5642I92111250XB120318I80361ID617764516651",
   "62517261550XC2XV4D214X22X54Y06111211121112111211121112111211121112111211121112111211121112111",
   "211121112111211121112111211121112111211121112111211121112111211121112111211121112111211121112",
   "111211121112111211121112111211121112111211121112111211121112111211121112111211121112111211121",
   "112111211121112111211121112111211121112111211121192111211121112111211121112111211121112111211",
   "121112111211121112111211121112111211121112111211121112111211121112111211121112111211121112111",
   "211121112111211121112111211121112111211121112111211121112119281622061208281828162206120821011",
   "1011101110118281E22082838283828352102241131L123L32102241133L42202241103L82513L2032102241132L1",
   "0BN5R6D2I1G1H1E2G1H1E1G8I1O1P5R1N9I1G1H4I2C3I1J1E1FBI1J1I1CAI1N5R10AR1B14206B3J1E1F14AB3J1E1F",
   "10D430X1KF0D6481638C6F02M114M112M12312231121M112M1J516M111M111M111M411M12411245122M22215J1142",
   "1M1J2M121MGBX3A11124A1B2M405J5M2J4M1J2M1J2M1J7M1JVM2J2M1J1M1JVMeCJ8M1E1F1E1FKM2J7M1E1FYHM1JUM",
   "PJX8M6JY8MM0BML0XSBYEMMBbNM1J9M1JXMM8JZFM1JdOM1E1F1E1F1E1F1E1F1E1F1E1F1E1FUBXCM5J1E1FVJ1E1F1E",
   "1F1E1F1E1F1E1FGJe0Ma3J1E1F1E1F1E1F1E1F1E1F1E1F1E1F1E1F1E1F1E1F1E1FXVJ1E1F1E1FX0J1E1Fe2JXGMLJ2",
   "M6JX7M20X0M10Z9MXG1XG211123122111211121112411211221162243112111211121112111211121112111211121",
   "112111211121112111211121112111211121112111211121112111211121112111211121112111211121112111211",
   "12111211121112111211121112111211121112111211121112111211121112111211226M11121112361112504I1B2",
   "IX621012501220XO570141IE016N59075107510751075107510751075107510X062I1G1H1G1H3I1G1H1I1G1H9I1D2",
   "I1D1I1G1H2I1G1H1E1F1E1F1E1F1E1F5I14AI2D4I1D1I1EDI2M3I1E1F1E1F1E1F1E1F1DX20QM10YPMC0cMMQ0GM1N3",
   "I1M14151A1E1F1E1F1E1F1E1F1E1F2M1E1F1E1F1E1F1E1F1D1E2F1M9A46271D542M3A14151I2M10YM520262L24151",
   "DYQ51I341550XB510YU5102M4BAMX05X6M901MG5VM10ABUM8B1MFBX0MABX7MFBg0Mck05Y0MqmL514XZN530XNM90X8",
   "5642IeC5143IG5A925K01112111211121112111211121112111211121112111211121112111211121112111211121",
   "11211121112111211121516381IA61I14111211121112111211121112111211121112111211121112111211122426",
   "Y65AA266I80NL942L1112111211121112111211121132111211121112111211121112111211121112111211121112",
   "111211121112111211121112111211121112111211121112111211121112111211121112111214821112111221121",
   "112111211121112142L11121112151112113211121112111211121112111211121112111211125112511211121112",
   "111211121112111211124112111221122011121012101211121112111211L0341112152412751635164516N527261",
   "74M16306B2M1K1M60XK54I8027XI5G726802IA960I6653I151I2516A9S5862IN5B627B01IT5303617XF5162746272",
   "637DI1014A9402I55161495A95510X95662726272690351685161720A9204IG514653M15171617XI5161536252655",
   "26151615O025142IB51726272I15241716A065206520659075107510XB21L4492142L40YG2X3527162716271I1716",
   "20A960gz45C0N540XH540YW0Sce0ThE520ZA5X6072C052501516A51JD5105510151025102510ZC5HLG0hB51F1EGMY",
   "0520XM5701MX00C51K3MG67I1E1F1I60G61I2D2C1E1F1E1F1E1F1E1F1E1F1E1F1E1F1E1F2I1E1F4I3C3I104I1D1E1",
   "F1E1F1E1F3I1J1D3J101I1K2I405510a75201R103I1K3I1E1F1I1J1I1D2IA92I3J2IQ11E1I1F1L1C1LQ21E1J1F1J1",
   "E1F1I1E1F2IA514XD524V53065206520652035302K1J1L1M2K101M4J2MA03R2M20C510Q510J5102510F520E5X20ZR",
   "5503I40XDB309MXLA4BHM2B3M10DM301MXF0XDM16a20T530XH5F016RB40X054B90K51A851A50X655650U5101IX454",
   "0851I5AXA0X81X82YE520A960X4140X4240X8580XK5B01IB110F11071102110B210F21072102230XK5C0fN590M5A0",
   "85O06410XA41094Y5065201510XC51025301520N5101I8BN52M7BV5809BXG0J51025505BM56B301IQ5501IY00XO54",
   "02B25GB20XEB15361026504645103510T5203640169B709I70T52B1IT53BX00851MS526405B7I90XM5307IM5208BJ",
   "5508BI5704IC07BYG0Y95XN0XJ1D0XJ2706BX454680A960A9451415M130561D14M2802JcG0VB10XA510261D2025G0",
   "35XN046T5AB1580M5B64B5IM0I5464IX60L57BK0N590171617XL5F67I40KBA916252615903617XD5374627262I1R4",
   "I16A01R20P570A96036X4556178610A94I15271580X35162I15902617XG5379627454I461I1716A9151I153I10KBB",
   "0I510P53736271617266I162516XU0751015104510F510A51I60XF516378650A96026271085202520M51075102510",
   "55102615271647202720372015601750552720763056B0A51015201510X6510153766101720171047102716171615",
   "16152I102I8026T0XL5378627361716455IA92I101I1635U0XG53766171647261726251I1580A9b60XF5374620472",
   "61726NI4526X20XG53786271617263I15B0A960DIJ0XB516171627661716151I60A960K9S0R520161716274617564",
   "0A92B3I1M75bP0XC5379617261IZ40X01X02A99BC08520152085102510O56710272026171615171517163I90A9Y60",
   "8520X75374620264716151I1517R015A6X85661715468I168015662736XE5D617263I155ID0Y9570AIbM0X151IE0A",
   "9609510X55177610661716155IA0A9JB302IU520M610177617261726Y9075102510X6566301610261076151680A96",
   "065102510X0557102610271617161570A9fM0J526272I70261517D510X2527563027161716DIA916YL015F0LB8M4K",
   "HMD01IyQ5Z60ZFA105IB0c45YoC0Z152ID0XXG5GR1665F6A0ZyR550o75crP0U5C63736A9Xs60nP570V510A9402IYF",
   "510A960U520561IA0XG5765I4M441I1MA0A9107B10L550J5jG034X85243IA9c60X01X02NB4IZ50YB5401615XN7704",
   "6D4Y00241I1416B027E0b-O580XcM5X90A5et70441074102410f35F015T0352015E04580iC5Ye40ZB550D5309570A",
   "5201M261I4RZwS0dGMA960jKMYC0XE620N690ZKMXS0dMMA0X7M20XSM27363M678R862M76UM46XTML0Y2M361MZQ0KB",
   "C0KBC0YNM90PBa70Q1Q2Q17210I2Q1Q21110212011202120411081421012107210B2Q1Q22110412081107110Q2211",
   "04110511011307110Q2Q1Q2Q1Q2Q1Q2Q1Q2Q1Q2Q1S220P11JP21J62P11JP21J62P11JP21J62P11JP21J62P11JP21J",
   "62111220XI9m0MXN64MXI68M16EM162M5IF05610F6XYG0A215K26062cL07610H620761026105650XU4X1016ZG0XD5",
   "30767420A940151Mg00U516H0XC546A9501KkG0R51446A9cM0U52615A9401Il00751045102510F510c55209B76X90",
   "X21X22761440A9402IuH0XRB1M3B1K4BYC0XDB1MFBc204510R510251015201510A510451015101560154015101510",
   "1510351025101520151015101510151015102510152045107510451045101510A510H55035105510H5XK02JeE0XCM",
   "40Z4MC0FM20FM10FM10X5MA0DBb1MXO0TMD0XCM409M702ME06MaQ0dRM5LsOM40HM30DM30ZNM40YVM60CM401MF0CM4",
   "0XOM80AM60X8M80UM20CM402MXU0gKMC0EM20DM30AM50XOM70FM20BM609M70aJM10YSMA9XW60Xft05X00aXQ560cU5",
   "20bq25E0dfH5F0pE5Yj20mU5Xl20awB550aZ05rtYH01RU0Z0Ra00dG6X-mG0X--UT20X--UT20"]

/-- The runs of categories from a code point on, as ranges. -/
def rangesFrom : Nat → List Nat → List (Category × Nat × Nat)
  | start, length :: place :: rest =>
    let category := all.getD place unassigned
    (category, start, start + length - 1) :: rangesFrom (start + length) rest
  | _, _ => []

/-- The ranges of code points of one category each. -/
def table : List (Category × Nat × Nat) := rangesFrom 0 (Packed.numbers runs)

/-- The code points of some categories. -/
def codes (cs : List Category) : Ranges :=
  table.filterMap fun (c, range) => if cs.contains c then some range else none

end Category

end ScriptHost
