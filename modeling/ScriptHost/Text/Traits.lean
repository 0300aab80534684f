import ScriptHost.Text.Ranges

/-!
# Traits of code points

Whether a code point is alphabetic, can start a name, or changes with its case, and so on.

* `Trait`: the traits;
* `Trait.named?`: the trait of a name;
* `Trait.codes`: the code points with a trait.
-/

namespace ScriptHost

/-- A trait that a code point has or has not. -/
inductive Trait
  | asciiHexDigit | alphabetic | bidiControl | bidiMirrored | caseIgnorable | cased
  | changesWhenCasefolded | changesWhenCasemapped | changesWhenLowercased
  | changesWhenFoldedCompatibly | changesWhenTitlecased | changesWhenUppercased | dash
  | defaultIgnorableCodePoint | deprecated | diacritic | emoji | emojiComponent | emojiModifier
  | emojiModifierBase | emojiPresentation | extendedPictographic | extender | graphemeBase
  | graphemeExtend | hexDigit | binaryOperator | trinaryOperator | nameContinue | nameStart
  | ideographic | joinControl | logicalOrderException | lowercase | math | noncharacterCodePoint
  | patternSyntax | patternWhiteSpace | quotationMark | radical | regionalIndicator
  | sentenceTerminal | softDotted | terminalPunctuation | unifiedIdeograph | uppercase
  | variationSelector | whiteSpace | stableNameContinue | stableNameStart
  deriving DecidableEq, Repr

namespace Trait

/-- All traits. -/
def all : List Trait :=
  [.asciiHexDigit, .alphabetic, .bidiControl, .bidiMirrored, .caseIgnorable, .cased,
    .changesWhenCasefolded, .changesWhenCasemapped, .changesWhenLowercased,
    .changesWhenFoldedCompatibly, .changesWhenTitlecased, .changesWhenUppercased, .dash,
    .defaultIgnorableCodePoint, .deprecated, .diacritic, .emoji, .emojiComponent, .emojiModifier,
    .emojiModifierBase, .emojiPresentation, .extendedPictographic, .extender, .graphemeBase,
    .graphemeExtend, .hexDigit, .binaryOperator, .trinaryOperator, .nameContinue, .nameStart,
    .ideographic, .joinControl, .logicalOrderException, .lowercase, .math, .noncharacterCodePoint,
    .patternSyntax, .patternWhiteSpace, .quotationMark, .radical, .regionalIndicator,
    .sentenceTerminal, .softDotted, .terminalPunctuation, .unifiedIdeograph, .uppercase,
    .variationSelector, .whiteSpace, .stableNameContinue, .stableNameStart]

/-- The names of a trait. -/
def names : Trait → List String
  | asciiHexDigit => ["ASCII_Hex_Digit", "AHex"]
  | alphabetic => ["Alphabetic", "Alpha"]
  | bidiControl => ["Bidi_Control", "Bidi_C"]
  | bidiMirrored => ["Bidi_Mirrored", "Bidi_M"]
  | caseIgnorable => ["Case_Ignorable", "CI"]
  | cased => ["Cased"]
  | changesWhenCasefolded => ["Changes_When_Casefolded", "CWCF"]
  | changesWhenCasemapped => ["Changes_When_Casemapped", "CWCM"]
  | changesWhenLowercased => ["Changes_When_Lowercased", "CWL"]
  | changesWhenFoldedCompatibly => ["Changes_When_NFKC_Casefolded", "CWKCF"]
  | changesWhenTitlecased => ["Changes_When_Titlecased", "CWT"]
  | changesWhenUppercased => ["Changes_When_Uppercased", "CWU"]
  | dash => ["Dash"]
  | defaultIgnorableCodePoint => ["Default_Ignorable_Code_Point", "DI"]
  | deprecated => ["Deprecated", "Dep"]
  | diacritic => ["Diacritic", "Dia"]
  | emoji => ["Emoji"]
  | emojiComponent => ["Emoji_Component", "EComp"]
  | emojiModifier => ["Emoji_Modifier", "EMod"]
  | emojiModifierBase => ["Emoji_Modifier_Base", "EBase"]
  | emojiPresentation => ["Emoji_Presentation", "EPres"]
  | extendedPictographic => ["Extended_Pictographic", "ExtPict"]
  | extender => ["Extender", "Ext"]
  | graphemeBase => ["Grapheme_Base", "Gr_Base"]
  | graphemeExtend => ["Grapheme_Extend", "Gr_Ext"]
  | hexDigit => ["Hex_Digit", "Hex"]
  | binaryOperator => ["IDS_Binary_Operator", "IDSB"]
  | trinaryOperator => ["IDS_Trinary_Operator", "IDST"]
  | nameContinue => ["ID_Continue", "IDC"]
  | nameStart => ["ID_Start", "IDS"]
  | ideographic => ["Ideographic", "Ideo"]
  | joinControl => ["Join_Control", "Join_C"]
  | logicalOrderException => ["Logical_Order_Exception", "LOE"]
  | lowercase => ["Lowercase", "Lower"]
  | math => ["Math"]
  | noncharacterCodePoint => ["Noncharacter_Code_Point", "NChar"]
  | patternSyntax => ["Pattern_Syntax", "Pat_Syn"]
  | patternWhiteSpace => ["Pattern_White_Space", "Pat_WS"]
  | quotationMark => ["Quotation_Mark", "QMark"]
  | radical => ["Radical"]
  | regionalIndicator => ["Regional_Indicator", "RI"]
  | sentenceTerminal => ["Sentence_Terminal", "STerm"]
  | softDotted => ["Soft_Dotted", "SD"]
  | terminalPunctuation => ["Terminal_Punctuation", "Term"]
  | unifiedIdeograph => ["Unified_Ideograph", "UIdeo"]
  | uppercase => ["Uppercase", "Upper"]
  | variationSelector => ["Variation_Selector", "VS"]
  | whiteSpace => ["White_Space", "space"]
  | stableNameContinue => ["XID_Continue", "XIDC"]
  | stableNameStart => ["XID_Start", "XIDS"]

/-- The trait of a name. -/
def named? (name : String) : Option Trait := all.find? fun t => t.names.contains name

/-- The code points with a trait: how many are left out, how many more than one follow, and so
on. -/
def runs : Trait → List String
  | asciiHexDigit => ["XG975Q5"]
  | alphabetic =>
    ["Y1P6PXF0A0405M1U1k94BE47010YM0TH1123106012101J1YI1aA8b51X5206X8X7D101111108Q43TA5XN16EZ51747",
     "42A220GXFDZ4OX091405N2IJO7A5N15808X9AB366YB1F124EDI17212L16103337212110804114C1A04215412L16",
     "111111444121407310H5B218121L16111438121130F3L34217212L161114372121914114D0G1153213311011313",
     "23B4432123060X8C121M1F37121281122023S317121M1914371212816113D2CC121X8271212105374M5121H3N18",
     "1026851017I1DXP5660XJ110141N101I12241060E3X00XV71X34I4F1X3Y3XM1024GXVA32X510502XA1gC1326101",
     "32X8132X0132610132E1XO132Y2X5FGYL253pB2G1P5YA3A7JBKCJCC1211CXJ2IE040Y3YO7XA5Y5AU1B48NT24BXB",
     "4PXMR4XU2JXI0N1B2XHXJ1E17XJX923AXB1AEXMM2AX32A5XA22X931511305bVJX1BeL252X525271010101U2XK16",
     "10321633254C5216ZK0D0GCZ5040291034601010131A235440HX8vDXJXuMd46331CX510502XN70GM96161616161",
     "616161VXF0kL2P874244YL621YP135XA1YTHVXGFm0cjVY0rqCY3XD2eC3FA1KXE573ZGX782Z62Y2211017LJ1X0OX",
     "JCY310XC53012AX05X2DS3XI1BF0GFA41XM9DIM3Y41010O22F23B5252596161XA1D6ZQLgz3CM4XGee4hD2Z9X66C",
     "45B1C141011111ZBX1hAIXV2XLX8BZK41a6X4P6PBYO35252522X3B1P1I111E2DX2ZQY5XKeBS3XGXFVDT5XA5T2X3",
     "4714XAaTIX34X34X78XJCA1E16111A1E16113XJCfM9LA7O51X918Y55201XB11302MAM9UY1I11ALAPY6XN61Y0311",
     "57121SXAS3SX371RRXLALAIDHZEY8XNXIDXIDX7X2R305MdQX91131G2XN03SA08LXAHXEKRM9Y5XB4AXO90DONXIH3",
     "8X2309XV1391A010X3H1X12063XU610131E197XON317212L161114372121306056S910201X519102013113010XC",
     "Y11213K2UY12110bOXL26P5X2XU1030XRXL20Y7Q2DL6bPXOZ7XVV72027111T112123YT72XD251011RXI29HY750I",
     "Y8c7X0V81XC1610XHT2L1DY96111XB3011121021O5111X4111310g7M9G1X832ZF0YFyPZ6ZEHc3YoCZ0FXXFH5PZy",
     "Q5o6crPXEXsHnO7UHYEHTIXFG3VK5IjGXCcJXVa0YA4XO7GY0110C1Eb-N8XcLX99et7316111f2F0T220E38iBYe4Z",
     "A5C387940bx1YK1Y6112021231B10161Y01327161R131410361gJ2O1O1U1O1U1O1U1O1U1O17XvKU65cL61G26111",
     "45XTX10ZGXCA6G0g1TIXBl4Rd4T20lF613111E1c4XRY33030XbK31Q111020191310106040101012111020101010",
     "1011102316131310191G52141GpKP6P6PZpMXfsVX0aXP6cT2bq1EdfGFpDYj2mTXl2awA5aYV"]
  | bidiControl => ["XmS0clH1Q4XN3"]
  | bidiMirrored =>
    ["X81I010S010T010XD0F0ZpU3XwT1YiS1A1XM1E1bH0c033530313313101048501H539110171V2350912I5194214N2",
     "F83K171XXTDYA023111253523DiJL251D807530441124401221A521CI13201020135162O1B14311214XA271X750",
     "103452403410e00m333111E129XB7jB927XpnT551b21I010S010T0101111XrxN0XP0XP0XP0XP0"]
  | caseIgnorable =>
    ["X7060B0X3010Y7040104021lNbV41409110dR6cF050XHXC10111110XC0B5AA10X30AKG0Z571913X1010UQYRAXQA4",
     "020ONXB2XC07158X9XPXN010474036A1D0F0XQ04380K1Q021XP041412230U130B1XP0441140K1M510XQ02013807",
     "1B1U0XT0C0XI030XN012521371B1T0XQ0206051K1S1XP14380K1T0Y807210YQ026B8Z20289016Y91R01010XND14",
     "115A1X390Z63151121P142G3D02160F0YU0p02zI2T1U1U1Y0116802A3050XD4XJ0Y11X20ZM2419062cR120XQ016",
     "1010276920X708UXH3XG0141050X88C1X032112XO0113012XQ721Y05YI21C16406031XIXUD0X2Z4jT012B2D2D2D",
     "1C481A02024XH41910D0GCXJX0YyB1ZH2ZT0F0Z0VXF0kL0X433450YT5YT2xuM0Xd25eE0Z231910S3YG1EX1YE0N2",
     "Z7231803040P150aN1QHD0X67PAXE2XG02321H0L1Y252121C080X30B0XJ012215110R0E15110Z4492ZP02040pvG",
     "0aJGnTF30CFX2020b907060B0X3010XF0XD1Y30L2m10d20aL4XW551X918o621153X8240b51nT3X60Q410fR1YF3Y",
     "6AXH3ZR0XMEX9021A2XH3212040A0XI2X4417XU0C1XK8A320YV220116020aT037L1XP130X5634Y65D01010E1YL7",
     "2210N0YK5104111dE36111R1YL72011ZA0102510Z50102314e3811e011040aG32140X09X8523809522XEC11iM61",
     "510YIL261111ZQ530111610Y813010gR1B1XK45010N0bcLG6Ehc8B32Yk04XR693lS2X81l20XVGY0111mWB31611Z",
     "aU113aoSXD2Mn029F26U3aK2XzRXM4XH80E0M41EXgG61G2611145XTX10b0DhG0XT3lR4dU1t06ZD7YrF4uZW10UYV",
     "a0dF"]
  | cased =>
    ["Y1P6PXF0A0405M1U1c2134cF2X271U4Z00XA32123106012101J1YI1aA8b51X59X8YuNX510502XA13r0YL25Ya2A5X",
     "A22Y0bVY0eL252X525271010101U2XK1610321633254C5216ZK0D0GCZ5040291034601010131540235440HV31vH",
     "XJXuMd46331CX51050+eIXDITa4Z5331XT211017L412vLXA1D6YFpw06C4XW9P6PXb5YFZ0X34X3ZKA1E16111A1E1",
     "611k30221X918Xc5XIDXIYTLALYuQXVrh0XVvi0YK1Y6112021231B10161Y01327161R131410361gJ2O1O1U1O1U1",
     "O1U1O1U1O17XvK91J65e5XTYaIY3X-CP6P6P"]
  | changesWhenCasefolded =>
    ["Y1PYQ0AM17X001010101010101010101010101010101010101010101010101010102010101010101010111010101",
     "0101010101010101010101010101010101010111010101110111223111231111010111020111210113071111110",
     "1010101010101020101010101010101021101210101010101010101010101010101010101010101010101010101",
     "010107111201310101010dM0XA0103080601210111G18M0C231101010101010101010101010112110112XIXG010",
     "1010101010101010101010101010109010101010101010101010101010101010101010101010101010101110101",
     "0101010201010101010101010101010101010101010101010101010101010101010101010101010101010101010",
     "1010101010102X5XG0YuOX51050vA5Ya296XA22g001010101010101010101010101010101010101010101010101",
     "0101010101010101010101010101010101010101010101010101010101010101010101010101010101010101010",
     "1010101051201010101010101010101010101010101010101010101010101010101010101010101010101010101",
     "010101010101010109785A78785B010101087GXF22255225B3C45225f903160XDFJ0vIPXvGXFXG0122010101310",
     "2082101010101010101010101010101010101010101010101010101010101010101010101010101010101010101",
     "01010101010801040+gD010101010101010101010101010101010101010101010J0101010101010101010101010",
     "10a7010101010101030101010101010101010101010101010101010101010101010101010101010A01011101010",
     "1040102010301010101010101010101414101010101010101310113050101010O0xQYFpw06C4XW9PXc5X7a8X3aS",
     "A1E1611XtAXIaTLYvQVri0V+r0X1"]
  | changesWhenCasemapped =>
    ["Y1P6PXQ0AM1U1XV1YJ1R2D21104YS1H6Q1110113113142011207020113550A1b60XA32132106012101J1XE3X0141",
     "a48b51X5AX6YuOX510502XA22r0YL25Ya2A5XA22bP030G0ZHaR201ZL252X525271010101U2XK1610321633254C5",
     "216f903160R0HV31vHXJXuMZG11117Z57331CX51050+eIXDIRa6D2XT9E32241O1T211017O1wS0SYFpw06C4XW9P6",
     "PXb5YFZ0X34X3ZKA1E16111A1E1611Xs3XIDXIYTLALYuQXVrh0XV+q0Y3"]
  | changesWhenLowercased =>
    ["Y1PZ5M16X10101010101010101010101010101010101010101010101010101010201010101010101020101010101",
     "0101010101010101010101010101010101011101031101112231112311110101110201112101130711111101010",
     "1010101010201010101010101010211012101010101010101010101010101010101010101010101010101010101",
     "07111201310101010f10103080601210111G18X308010101010101010101010105020112XIXG010101010101010",
     "1010101010101010109010101010101010101010101010101010101010101010101010101110101010101020101",
     "0101010101010101010101010101010101010101010101010101010101010101010101010101010101010101010",
     "2X5Yw9X51050sIYLYaJ06XA22g00101010101010101010101010101010101010101010101010101010101010101",
     "0101010101010101010101010101010101010101010101010101010101010101010101010101010101010901010",
     "1010101010101010101010101010101010101010101010101010101010101010101010101010101010101010101",
     "09785A78785B010101087O7878784B4B3C4B4f903160XDFJ0vIPXvGXFXG01220101013102082101010101010101",
     "01010101010101010101010101010101010101010101010101010101010101010101010101010101010801040+g",
     "D010101010101010101010101010101010101010101010J010101010101010101010101010a7010101010101030",
     "101010101010101010101010101010101010101010101010101010101010A010111010101040102010301010101",
     "010101010101414101010101010101310113050101010O0rvBPXc5X7a8X3aSA1E1611XtAXIaTLYvQVri0V+r0X1"]
  | changesWhenFoldedCompatibly =>
    ["Y1PY50701020102322121M17X0010101010101010101010101010101010101010101010101012102010101210101",
     "0111010101010101010101010101010101010101010101011101010111011122311123111101011102011121011",
     "3079101010101010102010101010101010102312101010101010101010101010101010101010101010101010101",
     "01010107111201310101010Z18V524YR11290X0010101030314610111G18M0C7101010101010101010101010121",
     "110112XIXG010101010101010101010101010101010901010101010101010101010101010101010101010101010",
     "1010101110101010101020101010101010101010101010101010101010101010101010101010101010101010101",
     "01010101010101010101010102X5XG0aK0YO3sV7ZS110YJ020X2220dT1sL0ZV0X81XE0XM090404040C0901470H0",
     "90404040C0d6X51050XE0Z21qN5zM1YL4XZG96XA22ZC21A1H1RD0X2X4Y001010101010101010101010101010101",
     "0101010101010101010101010101010101010101010101010101010101010101010101010101010101010101010",
     "1010101010101010101010101051201010101010101010101010101010101010101010101010101010101010101",
     "010101010101010101010101010101010109785A78785B010101087101010101010102XF222D283043123047222",
     "71F1050C2353111401082D07I2Q1CB0YN3121A112422101010131A15446XF3050b2111dO1fLaAXf10Z72Z50f3XF",
     "XG01220101013102064101010101010101010101010101010101010101010101010101010101010101010101010",
     "10101010101010101010101010801040ZS0fF0YJ0CcLXA0XL012Z0120YV0XHYT3DZ0U1X78XE1hVyo00101010101",
     "01010101010101010101010101010101010J01010101010101010101010101011a4010101010101030101010101",
     "0101010101010101010101010101010101010101010101010101080101110101010401020103010101010101010",
     "10101414101010101010101310113050101010L321x23906YFpg0eD2010291010213Y32Z9X66C4501N141011111",
     "ZBX1hAIXV2XLX8C3PMK2B1I1342101a6201bT35252522361618XW7X7a8X3aSA1E1611lB41X918Xc5XIaTLYvQVri",
     "0Vpo03aXIX3XZ46E7Y05nVYK1Y6112021231B10161Y01327161R131410361gJ2f32XHYXGXTYaIX1XcU31Q111020",
     "1913101060401010121110201010101011102316131310191G52141Go4A5U1VQ2X30ZF2DXB4871YiU9X-W6mTsXl",
     "2Z-V"]
  | changesWhenTitlecased =>
    ["Z1PXQ0X9N17101010101010101010101010101010101010101010101010101010102010101010101011101010101",
     "0101010101010101010101010101010101010201012201020305020322020101020402030102030104011111010",
     "1010101010101110101010101010101210103010101010101010101010101010101010101010301010101010101",
     "01080211040101010151110113113142011207020113550A1b60XB0103032I0RX21132101010101010101010101",
     "014102020XKXF101010101010101010101010101010101090101010101010101010101010101010101010101010",
     "1010101010201010101010111010101010101010101010101010101010101010101010101010101010101010101",
     "01010101010101010101010101010XHX6ZpG5Ya2810dE030G0ZI010101010101010101010101010101010101010",
     "1010101010101010101010101010101010101010101010101010101010101010101010101010101010101010101",
     "0101010101010101016501010101010101010101010101010101010101010101010101010101010101010101010",
     "10101010101010101010101885A78785A7878D2787878411603211832187A211gM0X1F40wBPXw6XF10311010106",
     "020A010101010101010101010101010101010101010101010101010101010101010101010101010101010101010",
     "101010101010801040CX51050+eJ010101010101010101010101010101010101010101010J01010101010101010",
     "1010101010a7010101010101030101010101010101010101010101010101010101010101010101010101010A010",
     "201010101040401120101010101010101010B010101010101010401020301010101010Q0wS0SYFpw06C4XX9PXcD",
     "X7a8X3aRA1E1611Xu3XIZTLYvQVri0V+r2X1"]
  | changesWhenUppercased =>
    ["Z1PXQ0X9N17101010101010101010101010101010101010101010101010101010102010101010101011101010101",
     "0101010101010101010101010101010101010201012201020305020322020101020402030102030105111111010",
     "1010101010111010101010101010111110301010101010101010101010101010101010101030101010101010101",
     "080211040101010151110113113142011207020113550A1b60XB0103032I0RX2113210101010101010101010101",
     "4102020XKXF10101010101010101010101010101010109010101010101010101010101010101010101010101010",
     "1010101020101010101011101010101010101010101010101010101010101010101010101010101010101010101",
     "010101010101010101010101010XHX6Yw8XA22tO5Ya2810dE030G0ZI01010101010101010101010101010101010",
     "1010101010101010101010101010101010101010101010101010101010101010101010101010101010101010101",
     "0101010101010101010101650101010101010101010101010101010101010101010101010101010101010101010",
     "101010101010101010101010101885A78785A7878D2XK114010321140332187A21140gH0X1F40wBPXw6XF103110",
     "10106020A0101010101010101010101010101010101010101010101010101010101010101010101010101010101",
     "01010101010101010801040CX51050+eJ010101010101010101010101010101010101010101010J010101010101",
     "010101010101010a701010101010103010101010101010101010101010101010101010101010101010101010101",
     "0A010201010101040401120101010101010101010B010101010101010401020301010101010Q0wS0SYFpw06C4XX",
     "9PXcDX7a8X3aRA1E1611Xu3XIZTLYvQVri0V+r2X1"]
  | dash => ["XD0XgS0XJ0Zo10XW50YW95XT0X70F0i60ZW4020V140S0jU0J0ZF0XpiG1X50A0b90Zp00fU0"]
  | defaultIgnorableCodePoint => ["bD0r10sC0Yw21XoJ1YL4X-R4Q4XHFadK0XpaRFdF0b00YF8Xlb73bcF7uhq5Z-V"]
  | deprecated => ["g90Xf90Ye3010YX91Yc55rP1xtcM0"]
  | diacritic =>
    ["YU010Y70604021lNaU1755H14091dT4cH0XNXC10111110a3741a614132Y3QYRAXQAX21ZU7X99GRXT0G033S0YA0G0",
     "ZE0G0ZE0G0XF2XS0G070ZN0ZE0G0ZE0G0ZD1G0ZS0ZF0C510ZB0D4YB1R0101041Y2211XU0ZG011X8144P610A1s12",
     "zK1U0aKA90gR2f40K720XGE2AZ80F0X68XM1XQ0B1Y21Y05YIO406022XIXUXGX35BX5AjT012B2D2D2D1ZdG2fT0lQ",
     "5Z93YV0zhI0C110S1YI1EX1Z62ZD1C0X50aN0RHXP3X40YV0C0X40aL2Y13XJ0Z4492a01pvG0u1FeE010XF0XD1Y30",
     "tS0XaV51X918pT240b51nR5X60Q4iF2Y6AXH3c00X90Y81ZO1XU0YC092Z81bI1YG1G0O634YP211D1YV030ZR1dR1Z",
     "U0ZM1ZJ0eD1e2140aS0YJ0I0YH0j50e2011YH0j91N0bdCEhcP0Yk04XR6nK1n2GYG1l-U31611du1XD2Mn02358726",
     "U3Zq2XTc26hN0XT3tU1t06ZD212"]
  | emoji =>
    ["X306059ZF040dyD0C0cO0M0YQ5F1hF1C0b60PA42c70d71A090XQ314902021204020112030318250105BB1201110I",
     "021I5101131502141B15120511011K155132040202510201010603060A1F02040104210B1XG290E0E0hK1kF2J1X",
     "J040XcQ0C0oP010ZlhA0cA0b01C1E029YBP11N0K028L1bEX12ZF21122YI221e61XUB51N7127C0232041D1208190",
     "52C28220104060306YLXGY557224930113029d3B40eRXE191bOZGC395XN7E2A68"]
  | emojiComponent => ["X306059d+J0cL0XtfB0Xy+MPlR4XjG3uXpCYV"]
  | emojiModifier => ["Zy-R4"]
  | emojiModifierBase =>
    ["fmT0cR0G3ZpZN0XS22022ZL12ALI3042127010O0c9140L041bE234YJ0G290B0nV02087609922XO0XT11110H21Cd5",
     "2XA8"]
  | emojiPresentation =>
    ["euQ1cD33020m91L1XIBXB0J0D081H1518050L0711040207041S0X30104210XT2O0E0wR1XJ040ZnbE0cA0bU029YBP",
     "10O0K02412L1bEX0C81Y51LCXA44CG303Y6101bQ2XUD31NI0Q1D0YMYKXGY560322243B178d3B40eRXE191bOZGC3",
     "95XN7E2A68"]
  | extendedPictographic =>
    ["b9040dyD0C0cO0M0YQ5F1hF1C0b60PA42c70d71A090XQ314902021204020112030318250105BB1201110I021I510",
     "1131502141B15120511011K155132040202510201010603060A1F02040104210B1XG290E0E0hK1kF2J1XJ040XcQ",
     "0C0oP010ZlhA0X73Z4BF1F0E1X59ZG1C1E029JXNREA0K028139M6bR2ZF21122YI22135dT1XUB51N7127C0232041",
     "D120819052C28220104060306YLXGY5572G30152CcQX5C3XO7A5X87U1C32D9X6CXE191bOYO7EaHe0-T"]
  | extender =>
    ["bN0mO1xE0jP0pM0a90YP0tG0ZV0Yg30XO0p30iE0Y40ay90XB4Z71YT2xuM0XlM0+20M0a90ZC0L1rZR0YWG1XkB0R04",
     "0Xc70f50ZK1lI2XcF0qb91XaS110ygO1XbH0wK2"]
  | graphemeBase =>
    ["X0YUX1C1oHZG72546101J1cV7b51X52XH22XE01020209Q45H9B01XDLF1Z48061204V201TTYOB0EXA963N4090307E",
     "1O501A5UHX9XPXM10138312792S1117212L1610333011612110D1124N5015412L1611111142O310792210C01812",
     "1L16111433801130F14B708117212L16111430206121F1124HB015321331101131323B5011321230LK6217121M1",
     "F3033J2202149791A121M1914312011O1114912EA121X8201152121142194P211H3N18102691667922CXF11B78C",
     "X5110141N1019119024109923X0N2Q10101D1X3I05024XH7151CX5XC4060212O233F4C11251E1X710502hO13261",
     "0132X8132X0132610132E1XO132Y25S3P6YL252qS3YO7HDI319HEC12FXJ207711B839696A596YO742X1105Y5AU4",
     "3224115703X924BXB4P6A3XO213XN10901185D9696DYMXFA3371S9B2V416XN102210DXF815E3XT5XA2AB0D07315",
     "12205bVY0eL252X525271010101U2XK1E1D251I22181A5N7XGG12Q1C3X0XVaB4qPMALXuJ2V1gN315XC10502XN71",
     "FM9616161616161616X1YTX2P1YOCcLQXP6F1YL4Z45XA1YT1YL9XF1ypC3XM9gRKXE40AV2YF258cD211017LF1213",
     "1O24496XN8Y3ABOC1X58OB0CT6XF1141211C1A461O1X86121B21710292V1XI1031242010OG27B5252596161XR4Z",
     "K1113396gz3CM4XGee4hD2Z9X66C4501N141011111ZSGjS2XL70X0FG9MX21I13441a64aS2U352525223616D12B1",
     "P1I111E2DX2ZQ524XC3YN1C30XFXCa3S3XGGQ4X39T5X5AT1X44DXAaT296X34X34X78XJBB1E16111A1E16113XJCf",
     "M9LA7O51X918Y55201XB11302M1Y788XGI115X03Q50Y0XN4J2XEF3121SA8787XVX0X46B9XL3S2Q5P73C6YGY8XNX",
     "IDXI7X9C96X58N81cGU1X93021G2XRX78LB8MH43X6RKM901XLF64T1120CXG412113EO799X3509H8X212BXJ90174",
     "11F1JBH1R314511XV610131E1A6XE12D98117212L161114301013212130C6S910201X51011F011301211X7XN813",
     "01K1012UXF11601110202389b6XE1163202QX4XI811023B96CJXA101181696JSQ3011409MbPXE9020Z4YIC72027",
     "111N1411631299Y672X98313R0AX7614790613XDD028DY879bMX1E9681X5E015AS3VP07020YB6111X5L09965111",
     "X441101079fMI239E1X3813MYM0FXHDyQZ6ZE14Bc3YoCZ2DXXFH5PZyQ5o6crPTC239Xs6nO7U194YG196T70AXF7E",
     "A9161K5IjGXPc6YQZ5YA5XNBCY03Sb-N8XcLX99et7316111f2F0T220E38iBYe4ZA5C38792020Zx0dP6jJaSZJXSd",
     "LAX62XR52M17T4XSLY130ZQJCJCYM9Oa7YK1Y6112021231B10161Y01327161R131410361gJ2f32nHXN3XI71D16X",
     "ZKU65e5XTaIXCA62941g0TIXB4950kGR49cMT2A40l0613111E1c428XGY3704941uHY3YCXSc231Q1110201913101",
     "060401010121110201010101011102316131310191G52141GXK1eEXB4Z3CE2E1E1X4AbDXOSDXB4871E5aQ+N4G3C",
     "3ZM4YU6B40FB4XN896X78T2B41XUgJCD2C395XN7E2A687aI1Z5XW6XfsVX0aXP6cT2bq1EdfGFpDYj2mTXl2awA5aY",
     "V"]
  | graphemeExtend =>
    ["u0ZFeJ6e7XC10111110Y8AXGKG0Z56252113X30UQYRAXQ890O3181214XB2XR8XAN1VXN010474036A1T0XQ0102380",
     "90A1Q021XP041412230U130B1XP0441140K1M510XQ011138072A1U0XR010C090X8030XN012521371B1T0XQ02110",
     "321371B1S1XP110238090A1T0Y8040221080YH026C7Z2028B6Y91R01010XND14115A1X390Z63151121P142G3D02",
     "160F0rV2zI3S2T1U1Y0116802A90XD210ZL1X20ZM2419062cR120XQ0161010276920XGUXH3XG942X68C1X0325XO",
     "0113014XO721aO21C16406031c6XVmC0c3X0Y-U2aD0Z0VnA5Z91zkK319X01YG1eG03040P150aN1QHD0X67PA10XC",
     "2XG0232120X40Y352121C080XF0XJ012215110XA180dE02040pvG0t1FGFhE1oT0d20aL4Xq621153X8240b51nT3Y",
     "14fT1YF3Y6AXH3ZR0XMEX9021A2XH32170XT2X4417XU0C1XK8108320YV2236020aT037L1XP11010C090E634Y302",
     "51020124210E1YL72210N0YH02510201111dB0236111R1YL72011ZA01027Z50102314e3811dL0A340aG32140X09",
     "X8523809522XEC11iM61510YIL261111ZQ530111610Y813010gR1B1XK452N0bd506Ehc8B32Yk04XR6XWO0XV3YH0",
     "B1pbB1ap1XD2MmU4358726U3aK2XzRXM4XH80E0M41EXgG61G261114Z40b06hN0XT3lS3dU1t06ZD6ubsLYVa0dF"]
  | hexDigit => ["XG975Q5X-r9975Q5"]
  | binaryOperator => ["h-G129lH0"]
  | trinaryOperator => ["h-I1"]
  | nameContinue =>
    ["XG97P401PXF0A010205M1U1k94BE47010HZK11231064101J1YI1aA142b51X5206X88XC101111108Q43TA5Y94Z517",
     "291I20GXQ2Z4EXL40202XDIR4A5N158YA1a0291I17212L1610332821238041142BA0102215412L1611111120144",
     "1223073107FB218121L16111429121220F329961217212L1611142821227241142910G115321331101131323B44",
     "32132060E9GC121M1F2812137112202329G317121M19142812137161132912CC121XI1214537429A5121H3N1810",
     "26304510176921DXP5E19X7110141N101M2410161923X00N169B01010491X34J1H1X390XPY96YD2X510502XA1gC",
     "132610132X8132X0132610132E1XO132Y22298EFGYL253pB2G1P5YA3A7L9LBJCC1211CYJ304129X121A6YO7XA5Y",
     "5AU1B4BAX724BXB4P6AX5R4XU1S2A69D08D1FXHYC39H8CZJCXN893XG2A5XA22G21X65mL252X525271010101U2XK",
     "1610321633254C5216F1XH1J0S0D0GCXJC403BH0402910256010101F235440HX8YpNd468CX510502XN70FN96161",
     "616161616161Vm52PE14244YL261YU5XA1YTHVXGFm0cjVY0rqCY3XD2eC3RKXF491ZIX582Z62Y2211017LXL40JXJ",
     "CY5A96N301XG2X3CS3Y0EA6U1XM9D296M3Y8O22F24A5252596161XA1D6ZQ11296gz3CM4XGee4hD2Z9X66C45B1C1",
     "41011111ZBX1hAIXV2XLX8B4FGF31O2X041a6J97P401PAYP35252522X3B1P1I111E2DX2ZQY5XKa80a2S3XGF0VVD",
     "T5XA5T2X34714XAaT296X34X34X78XJCA1E16111A1E16113XJCfM9LA7O51X918Y55201XB11302MAM9UY1I11ALAP",
     "Y6XN61Y031157121S2240X0S3SX371TPXLALAIDHZEY8XNXIDXIDX7896X5341MdQX91131G2XNX0A08X0VLXAKRM9Y",
     "6VF9XR70DO796XK19438X3209Y4431C10X3H1X463XU610131E197XQ596317212L1611141921222060562634B910",
     "201X51910201317D1TYA5943UY51089b6XL28N5X2Y030B9X6XO796JSQ2E4966bPXQZ5Y9L72027111T1128C9Y672",
     "XD2711RXU808Y930IY8c7X0F9681XC18F9OT2L1DY96111XB3011188965111X4111579fMM9G1X834DAYL0YFyPZ6Z",
     "EHc3YoCZ0FXXFGLAZyQ5o6crPXPXs6nO7U196YE196T24BXM93C99K5IjGXC39c6XVa0YA4XO7GY0111B1Eb-N8XcLX",
     "99et7316111f2F0T220E38iBYe4ZA5C387931aYH9m6XD2MmU4358726U3aK2jRYK1Y6112021231B10161Y0132716",
     "1R131410361gJ2O1O1U1O1U1O1U1O1U1O172XHm0XM4XH80E0M41EXYGU65cL61G2611145XTX10ZGXC3D2940g1UHX",
     "PkMX9cMXAl5613111E1c4B6X9YB49Xb631Q1110201913101060401010121110201010101011102316131310191G",
     "52141GZfK9XW6XfsVX0aXP6cT2bq1EdfGFpDYj2mTXl2awA5aYVrtgGdF"]
  | nameStart =>
    ["Y1P6PXF0A0405M1U1k94BE47010a141123106012101J1YI1aA8b51X5206X8Y7Q43XDXAX311Z210F171A220G01TTY",
     "OB0OX091405L409030NO7A5N15HX9XQXL30I079FF47212L16103330G0D112E1A085412L16111111V310J2G8121L",
     "16111430I0F1N0B7212L16111430U112F0H015321331101131323BM0XK7121M1F30Q22021U047121M191430V111",
     "F1H8121X820G05282O55H3N181026XQXF11C6XQ110141N101911902410L3X00XV71X3R4ZJXAK0G5433031724CC0",
     "HX510502XA1gC132610132X8132X0132610132E1XO132Y2X5FGYL253pB2G1P5YA3A7HDIEHEC12FXJX3040Y3YO7X",
     "8105Y5AUXHT24BXB4PXMM9XKYI0YTXEH7XMTD1AXBQX3X92AX32A5XA22X931511305bVY0eL252X525271010101U2",
     "XK1610321633254C5216ZK0D0GCZ50402910256010101F235440HX8YpNd46331CX510502XN70GM9616161616161",
     "616n62P874244YL441YP135XA1YTHVXGFm0cjVY0rqCY3XD2eC3FA1KXEGU2YFX782Z62Y2211017LF12131MTXJEXH",
     "XU53011BRAMPS7XES0G419A41X8N217KM303XH1031242010O22A72C5252596161XA1D6ZITgz3CM4XGee4hD2Z9X6",
     "6C450191C141011111ZBX1hAIXV2XLX8BZK41a6X4P6PBYO35252522X3B1P1I111E2DX2ZQY5XKeBS3XGXFVDT5X5A",
     "T2X34714XAaTIX34X34X78XJCA1E16111A1E16113XJCfM9LA7O51X918Y55201XB11302MAM9UY1I11ALAPY6XN61Y",
     "00F3121SXAS3SX371RRXLALAIDHZEY8XNXIDXIDX3X6R9MdQX961G2XRSA08LXAHXEKRMCXKXP120DXCX0OQX3T0208",
     "X230CXFE3L010X3H1OJ1XV610131E197XEX67212L16111430I0C4U910201X510P010XCXKI3K2UXFK110bOXEX93X",
     "4XFK0XRXAD0Y7QX56bPXBZKXVV72027111NF010YU72X6G010S0AX770L0BXDJ0IY8c7X0V81X4H0XHTZG6111X5L0P",
     "5111VE0g7IF01C1X1ZS0YFyPZ6ZEHc3YoCZ0FXXFH5PZyQ5o6crPTXt2nO7UHYEHTIXFG3VK5IjGXCcJXVa0YA50Y2C",
     "Y0110Sb-N8XcLX99et7316111f2F0T220E38iBYe4ZA5C3879bx6YK1Y6112021231B10161Y01327161R131410361",
     "gJ2O1O1U1O1U1O1U1O1U1O17XvKU65e5XTaIXCA6G0g1TIXBl4Rd4T20lF613111E1c4XRY370XbK31Q11102019131",
     "01060401010121110201010101011102316131310191G52141Gag4XfsVX0aXP6cT2bq1EdfGFpDYj2mTXl2awA5aY",
     "V"]
  | ideographic =>
    ["iW61P8E2+5cjVY0qlVse0hD2Z9zeA0Rb-N8XcLX99fZ7iBpe4XfsVX0aXP6cT2bq1EdfGFpDYj2mTXl2awA5aYV"]
  | joinControl => ["eWC1"]
  | logicalOrderException => ["Zo04ZR4YtG220XadQ12011"]
  | lowercase =>
    ["Z1PXF0A040X4N1710101010101010101010101010101010101010101010101010101011101010101010101110101",
     "0101010101010101010101010101010101010101020101220102031402032202010102011102030102122602020",
     "1010101010101011101010101010101011201030101010101010101010101010101010101010101010101010101",
     "0101016202110401010101Y42X271U4Z00XB0103023I0RX21132101010101010101010101014102021XJXF10101",
     "0101010101010101010101010101090101010101010101010101010101010101010101010101010101020101010",
     "1010111010101010101010101010101010101010101010101010101010101010101010101010101010101010101",
     "01010101010XGX8Yw7XA13tO5Ya2810ZLbVY1010101010101010101010101010101010101010101010101010101",
     "0101010101010101010101010101010101010101010101010101010101010101010101010101010101010101010",
     "1018101010101010101010101010101010101010101010101010101010101010101010101010101010101010101",
     "0101010101885A78785A7878D2787878411603211832187A211ZP0D0GCZD03130R04040218340X1F40wBPXw6XF1",
     "0311010104011173010101010101010101010101010101010101010101010101010101010101010101010101010",
     "101010101010101010101011701040CX51050+eJ010101010101010101010101010101010101010101010J01010",
     "1010101010101010101012a50101010101012101010101010101010101010101010101010101010101010101010",
     "10101019101020101010104010201210101010101010101010505010101010101010401020301010101010M2101",
     "2vLXA1D6YFpw06C4XX9PXcDX7a8X3aRA1E1611k30221X918Xe5XIZTLYvQVri0VviQPQ61HQPQ310161AQPQPQPQPQ",
     "PQPQPQPQRSO15QO15QO15QO15QO1510XvK91J65e5XTYbKX1"]
  | math =>
    ["XB0G2V0T010XD040X50V0sO220Q122mF2cmD0R2B030D0E3L4B4Y1C403144I04029102560312112153D10Y4N15114",
     "14V1061EeB83K1YQ0UQ10O0B6jT1C945412134E01025B751XP010T392gGXVe0lVXGK25Xp+S0vN510b20G2T010T0",
     "10a3063Zj11XnpGYK1Y6112021231B10161Y01327161R131410361gJ2f32XHbm031Q11102019131010604010101",
     "21110201010101011102316131310191G52141GXK1"]
  | noncharacterCodePoint =>
    ["X-kGVmE1X--U1X--U1X--U1X--U1X--U1X--U1X--U1X--U1X--U1X--U1X--U1X--U1X--U1X--U1X--U1X--U1"]
  | patternSyntax => ["X1EA6Q310Q3X2610111011404030N0V0duON8E2I19fHsFb0pLUXZBm0ZVi124OF0XpeD1e51"]
  | patternWhiteSpace => ["94I0Z40dy81O1"]
  | quotationMark => ["X2040a30F0dwS7P1Zm70k93D2Xpn13bT040YQ1"]
  | radical => ["hq0P1YOCcL"]
  | regionalIndicator => ["Zyl6P"]
  | sentenceTerminal =>
    ["X10C0G0Xg90aJ2bK0XB2dM0XT01031f51Xt41uM041u50c61aT1XD050fQ1h23b21A121T2bR1Y11z40N192ZbF2fI0D",
     "0M1jD0zdS0eE1d3030hU1YM1YV0aO1aJ2aG1dP0qn6021XR031b90C0G0Y10YtK1XdT4XC3bT1ZL3ZV2a1160G1YO11",
     "1ZC0fA1ZL1hL15EZ91dP2m5010dR1YN1j41rK1YA1ov91a50Y11B0n91f80pm60dl80"]
  | softDotted =>
    ["Z91c40eP0U0XK0K0g00Z2010ce90XJ0D030a40aT0j50cM1YvI0Zfz51XI1XI1XI1XI1XI1XI1XI1XI1XI1XI1XI1XI1",
     "Ya60fH1Q0"]
  | terminalPunctuation =>
    ["X10A010B130vU080m10XP0Y80E012bK0XBA10dB1XM517V0e51XdK1bC045fN1uL7u50ZS2Y71aT230X7321fQ1h23b2",
     "1A112T2bR4XU1z40N192ZbF2fI0D040A01131jC1zdR1eD2d34hU1YM1YV0aN2aJ2ZV0G1dP0qn6021XP213b90A010",
     "B130Y1020XXQ0XG0Xa60c70fM1aO5Y45YP3zO4XC3bT6ZG3ZV2a1160G1YO4ZC0fA1ZL2C1h633EZ91dP2m5010dR1Y",
     "N141iU2XD0q51YA1XfB4nlP1a50Y12A0n91f71pm60dl73"]
  | unifiedIdeograph => ["jW0cjVY0qlVsmE11011A0101122YXkMXfsVX0aXP6cT2bq1EdfGFpDaj2awA5aYV"]
  | uppercase =>
    ["Y1PZ5M16X10101010101010101010101010101010101010101010101010101010201010101010101020101010101",
     "0101010101010101010101010101010101011101031101112231112311110101110201112101130702020201010",
     "1010101010201010101010101010202012101010101010101010101010101010101010101010101010101010101",
     "07111201310101010f10103080601210111G18X30223010101010101010101010105020112XIXG0101010101010",
     "1010101010101010101090101010101010101010101010101010101010101010101010101011101010101010201",
     "0101010101010101010101010101010101010101010101010101010101010101010101010101010101010101010",
     "102X5Yw9X51050sIYLYaJ06XA22g001010101010101010101010101010101010101010101010101010101010101",
     "0101010101010101010101010101010101010101010101010101010101010101010101010101010101010109010",
     "1010101010101010101010101010101010101010101010101010101010101010101010101010101010101010101",
     "0109785A78785B010101087Y83C3C3C4B3e6040322220346010101323A150QFJ0vIPXvGXFXG0122010101310208",
     "2101010101010101010101010101010101010101010101010101010101010101010101010101010101010101010",
     "10101010801040+gD010101010101010101010101010101010101010101010J010101010101010101010101010a",
     "7010101010101030101010101010101010101010101010101010101010101010101010101010A01011101010104",
     "0102010301010101010101010101414101010101010101310113050101010O0rvBPXc5X7a8X3aSA1E1611XtAXIa",
     "TLYvQVri0Vvj0PQPQPQ01120212317QPQ1132716R113141036RPQPQPQPQPQPUOX1OX1OX1OX1OX10afLX1YWEP6P6",
     "P"]
  | variationSelector => ["cWB210XvlGFwWtGdF"]
  | whiteSpace => ["94I0Z40Q0bkV0YhVAT150XF0Zz00"]
  | stableNameContinue =>
    ["XG97P401PXF0A010205M1U1k94BE47010HZK11321064101J1YI1aA142b51X5206X88XC101111108Q43TA5Y94Z517",
     "291I20GXQ2Z4EXL40202XDIR4A5N158YA1a0291I17212L1610332821238041142BA0102215412L1611111120144",
     "1223073107FB218121L16111429121220F329961217212L1611142821227241142910G115321331101131323B44",
     "32132060E9GC121M1F2812137112202329G317121M19142812137161132912CC121XI1214537429A5121H3N1810",
     "26304510176921DXP5E19X7110141N101M2410161923X00N169B01010491X34J1H1X390XPY96YD2X510502XA1gC",
     "132610132X8132X0132610132E1XO132Y22298EFGYL253pB2G1P5YA3A7L9LBJCC1211CYJ304129X121A6YO7XA5Y",
     "5AU1B4BAX724BXB4P6AX5R4XU1S2A69D08D1FXHYC39H8CZJCXN893XG2A5XA22G21X65mL252X525271010101U2XK",
     "1610321633254C5216F1XH1J0S0D0GCXJC403BH0402910256010101F235440HX8YpNd468CX510502XN70FN96161",
     "616161616161Vm52PE14244YL21221YU5XA1YTHVXGFm0cjVY0rqCY3XD2eC3RKXF491ZIX582Z62Y2211017LXL40J",
     "XJCY5A96N301XG2X3CS3Y0EA6U1XM9D296M3Y8O22F24A5252596161XA1D6ZQ11296gz3CM4XGee4hD2Z9X66C45B1",
     "C141011111ZBX1aA6cPIXV2XLX896FGF31O2X1010301010101ZTJ97P401PAYP35252522X3B1P1I111E2DX2ZQY5X",
     "Ka80a2S3XGF0VVDT5XA5T2X34714XAaT296X34X34X78XJCA1E16111A1E16113XJCfM9LA7O51X918Y55201XB1130",
     "2MAM9UY1I11ALAPY6XN61Y031157121S2240X0S3SX371TPXLALAIDHZEY8XNXIDXIDX7896X5341MdQX91131G2XNX",
     "0A08X0VLXAKRM9Y6VF9XR70DO796XK19438X3209Y4431C10X3H1X463XU610131E197XQ596317212L16111419212",
     "22060562634B910201X51910201317D1TYA5943UY51089b6XL28N5X2Y030B9X6XO796JSQ2E4966bPXQZ5Y9L7202",
     "7111T1128C9Y672XD2711RXU808Y930IY8c7X0F9681XC18F9OT2L1DY96111XB3011188965111X4111579fMM9G1X",
     "834DAYL0YFyPZ6ZEHc3YoCZ0FXXFGLAZyQ5o6crPXPXs6nO7U196YE196T24BXM93C99K5IjGXC39c6XVa0YA4XO7GY",
     "0111B1Eb-N8XcLX99et7316111f2F0T220E38iBYe4ZA5C387931aYH9m6XD2MmU4358726U3aK2jRYK1Y611202123",
     "1B10161Y01327161R131410361gJ2O1O1U1O1U1O1U1O1U1O172XHm0XM4XH80E0M41EXYGU65cL61G2611145XTX10",
     "ZGXC3D2940g1UHXPkMX9cMXAl5613111E1c4B6X9YB49Xb631Q11102019131010604010101211102010101010111",
     "02316131310191G52141GZfK9XW6XfsVX0aXP6cT2bq1EdfGFpDYj2mTXl2awA5aYVrtgGdF"]
  | stableNameStart =>
    ["Y1P6PXF0A0405M1U1k94BE47010a141132106012101J1YI1aA8b51X5206X8Y7Q43XDXAX311Z210F171A220G01TTY",
     "OB0OX091405L409030NO7A5N15HX9XQXL30I079FF47212L16103330G0D112E1A085412L16111111V310J2G8121L",
     "16111430I0F1N0B7212L16111430U112F0H015321331101131323BM0XK7121M1F30Q22021U047121M191430V111",
     "F1H8121X820G05282O55H3N181026XQXF10D6XQ110141N101910A02410L3X00XV71X3R4ZJXAK0G5433031724CC0",
     "HX510502XA1gC132610132X8132X0132610132E1XO132Y2X5FGYL253pB2G1P5YA3A7HDIEHEC12FXJX3040Y3YO7X",
     "8105Y5AUXHT24BXB4PXMM9XKYI0YTXEH7XMTD1AXBQX3X92AX32A5XA22X931511305bVY0eL252X525271010101U2",
     "XK1610321633254C5216ZK0D0GCZ50402910256010101F235440HX8YpNd46331CX510502XN70GM9616161616161",
     "616n62P874244YL621YP135XA1YTHVXGFm0cjVY0rqCY3XD2eC3FA1KXEGU2YFX782Z62Y2211017LF12131MTXJEXH",
     "XU53011BRAMPS7XES0G419A41X8N217KM303XH1031242010O22A72C5252596161XA1D6ZITgz3CM4XGee4hD2Z9X6",
     "6C450191C141011111ZBX1aA6cPIXV2XLX89ZN010301010101ZTX4P6PBXN2U35252522X3B1P1I111E2DX2ZQY5XK",
     "eBS3XGXFVDT5X5AT2X34714XAaTIX34X34X78XJCA1E16111A1E16113XJCfM9LA7O51X918Y55201XB11302MAM9UY",
     "1I11ALAPY6XN61Y00F3121SXAS3SX371RRXLALAIDHZEY8XNXIDXIDX3X6R9MdQX961G2XRSA08LXAHXEKRMCXKXP12",
     "0DXCX0OQX3T0208X230CXFE3L010X3H1OJ1XV610131E197XEX67212L16111430I0C4U910201X510P010XCXKI3K2",
     "UXFK110bOXEX93X4XFK0XRXAD0Y7QX56bPXBZKXVV72027111NF010YU72X6G010S0AX770L0BXDJ0IY8c7X0V81X4H",
     "0XHTZG6111X5L0P5111VE0g7IF01C1X1ZS0YFyPZ6ZEHc3YoCZ0FXXFH5PZyQ5o6crPTXt2nO7UHYEHTIXFG3VK5IjG",
     "XCcJXVa0YA50Y2CY0110Sb-N8XcLX99et7316111f2F0T220E38iBYe4ZA5C3879bx6YK1Y6112021231B10161Y013",
     "27161R131410361gJ2O1O1U1O1U1O1U1O1U1O17XvKU65e5XTaIXCA6G0g1TIXBl4Rd4T20lF613111E1c4XRY370Xb",
     "K31Q1110201913101060401010121110201010101011102316131310191G52141Gag4XfsVX0aXP6cT2bq1EdfGFp",
     "DYj2mTXl2awA5aYV"]

/-- The code points with a trait. -/
def codes (t : Trait) : Ranges := Ranges.ofGaps 0 (Packed.numbers t.runs)

end Trait

end ScriptHost
