import Gleaner.Unicode.Ranges

/-!
# Word breaks

The classes of code points that tell what words are made of.
-/

namespace Gleaner.Unicode
namespace WordBreak

/-- The code points of the class `A Letter`. -/
def aLetter : Ranges :=
  Ranges.ofText
    "0041..005A 0061..007A 00AA 00B5 00BA 00C0..00D6 00D8..00F6 00F8..02D7 02DE..02FF 0370..0374
    0376..0377 037A..037D 037F 0386 0388..038A 038C 038E..03A1 03A3..03F5 03F7..0481 048A..052F
    0531..0556 0559..055C 055E 0560..0588 058A 05F3 0620..064A 066E..066F 0671..06D3 06D5
    06E5..06E6 06EE..06EF 06FA..06FC 06FF 070F..0710 0712..072F 074D..07A5 07B1 07CA..07EA
    07F4..07F5 07FA 0800..0815 081A 0824 0828 0840..0858 0860..086A 0870..0887 0889..088E
    08A0..08C9 0904..0939 093D 0950 0958..0961 0971..0980 0985..098C 098F..0990 0993..09A8
    09AA..09B0 09B2 09B6..09B9 09BD 09CE 09DC..09DD 09DF..09E1 09F0..09F1 09FC 0A05..0A0A
    0A0F..0A10 0A13..0A28 0A2A..0A30 0A32..0A33 0A35..0A36 0A38..0A39 0A59..0A5C 0A5E 0A72..0A74
    0A85..0A8D 0A8F..0A91 0A93..0AA8 0AAA..0AB0 0AB2..0AB3 0AB5..0AB9 0ABD 0AD0 0AE0..0AE1 0AF9
    0B05..0B0C 0B0F..0B10 0B13..0B28 0B2A..0B30 0B32..0B33 0B35..0B39 0B3D 0B5C..0B5D 0B5F..0B61
    0B71 0B83 0B85..0B8A 0B8E..0B90 0B92..0B95 0B99..0B9A 0B9C 0B9E..0B9F 0BA3..0BA4 0BA8..0BAA
    0BAE..0BB9 0BD0 0C05..0C0C 0C0E..0C10 0C12..0C28 0C2A..0C39 0C3D 0C58..0C5A 0C5D 0C60..0C61
    0C80 0C85..0C8C 0C8E..0C90 0C92..0CA8 0CAA..0CB3 0CB5..0CB9 0CBD 0CDD..0CDE 0CE0..0CE1
    0CF1..0CF2 0D04..0D0C 0D0E..0D10 0D12..0D3A 0D3D 0D4E 0D54..0D56 0D5F..0D61 0D7A..0D7F
    0D85..0D96 0D9A..0DB1 0DB3..0DBB 0DBD 0DC0..0DC6 0F00 0F40..0F47 0F49..0F6C 0F88..0F8C
    10A0..10C5 10C7 10CD 10D0..10FA 10FC..1248 124A..124D 1250..1256 1258 125A..125D 1260..1288
    128A..128D 1290..12B0 12B2..12B5 12B8..12BE 12C0 12C2..12C5 12C8..12D6 12D8..1310 1312..1315
    1318..135A 1380..138F 13A0..13F5 13F8..13FD 1401..166C 166F..167F 1681..169A 16A0..16EA
    16EE..16F8 1700..1711 171F..1731 1740..1751 1760..176C 176E..1770 1820..1878 1880..1884
    1887..18A8 18AA 18B0..18F5 1900..191E 1A00..1A16 1B05..1B33 1B45..1B4C 1B83..1BA0 1BAE..1BAF
    1BBA..1BE5 1C00..1C23 1C4D..1C4F 1C5A..1C7D 1C80..1C8A 1C90..1CBA 1CBD..1CBF 1CE9..1CEC
    1CEE..1CF3 1CF5..1CF6 1CFA 1D00..1DBF 1E00..1F15 1F18..1F1D 1F20..1F45 1F48..1F4D 1F50..1F57
    1F59 1F5B 1F5D 1F5F..1F7D 1F80..1FB4 1FB6..1FBC 1FBE 1FC2..1FC4 1FC6..1FCC 1FD0..1FD3
    1FD6..1FDB 1FE0..1FEC 1FF2..1FF4 1FF6..1FFC 2071 207F 2090..209C 2102 2107 210A..2113 2115
    2119..211D 2124 2126 2128 212A..212D 212F..2139 213C..213F 2145..2149 214E 2160..2188
    24B6..24E9 2C00..2CE4 2CEB..2CEE 2CF2..2CF3 2D00..2D25 2D27 2D2D 2D30..2D67 2D6F 2D80..2D96
    2DA0..2DA6 2DA8..2DAE 2DB0..2DB6 2DB8..2DBE 2DC0..2DC6 2DC8..2DCE 2DD0..2DD6 2DD8..2DDE 2E2F
    3005 303B..303C 3105..312F 3131..318E 31A0..31BF A000..A48C A4D0..A4FD A500..A60C A610..A61F
    A62A..A62B A640..A66E A67F..A69D A6A0..A6EF A708..A7CD A7D0..A7D1 A7D3 A7D5..A7DC A7F2..A801
    A803..A805 A807..A80A A80C..A822 A840..A873 A882..A8B3 A8F2..A8F7 A8FB A8FD..A8FE A90A..A925
    A930..A946 A960..A97C A984..A9B2 A9CF AA00..AA28 AA40..AA42 AA44..AA4B AAE0..AAEA AAF2..AAF4
    AB01..AB06 AB09..AB0E AB11..AB16 AB20..AB26 AB28..AB2E AB30..AB69 AB70..ABE2 AC00..D7A3
    D7B0..D7C6 D7CB..D7FB FB00..FB06 FB13..FB17 FB50..FBB1 FBD3..FD3D FD50..FD8F FD92..FDC7
    FDF0..FDFB FE70..FE74 FE76..FEFC FF21..FF3A FF41..FF5A FFA0..FFBE FFC2..FFC7 FFCA..FFCF
    FFD2..FFD7 FFDA..FFDC 10000..1000B 1000D..10026 10028..1003A 1003C..1003D 1003F..1004D
    10050..1005D 10080..100FA 10140..10174 10280..1029C 102A0..102D0 10300..1031F 1032D..1034A
    10350..10375 10380..1039D 103A0..103C3 103C8..103CF 103D1..103D5 10400..1049D 104B0..104D3
    104D8..104FB 10500..10527 10530..10563 10570..1057A 1057C..1058A 1058C..10592 10594..10595
    10597..105A1 105A3..105B1 105B3..105B9 105BB..105BC 105C0..105F3 10600..10736 10740..10755
    10760..10767 10780..10785 10787..107B0 107B2..107BA 10800..10805 10808 1080A..10835
    10837..10838 1083C 1083F..10855 10860..10876 10880..1089E 108E0..108F2 108F4..108F5
    10900..10915 10920..10939 10980..109B7 109BE..109BF 10A00 10A10..10A13 10A15..10A17
    10A19..10A35 10A60..10A7C 10A80..10A9C 10AC0..10AC7 10AC9..10AE4 10B00..10B35 10B40..10B55
    10B60..10B72 10B80..10B91 10C00..10C48 10C80..10CB2 10CC0..10CF2 10D00..10D23 10D4A..10D65
    10D6F..10D85 10E80..10EA9 10EB0..10EB1 10EC2..10EC4 10F00..10F1C 10F27 10F30..10F45
    10F70..10F81 10FB0..10FC4 10FE0..10FF6 11003..11037 11071..11072 11075 11083..110AF
    110D0..110E8 11103..11126 11144 11147 11150..11172 11176 11183..111B2 111C1..111C4 111DA 111DC
    11200..11211 11213..1122B 1123F..11240 11280..11286 11288 1128A..1128D 1128F..1129D
    1129F..112A8 112B0..112DE 11305..1130C 1130F..11310 11313..11328 1132A..11330 11332..11333
    11335..11339 1133D 11350 1135D..11361 11380..11389 1138B 1138E 11390..113B5 113B7 113D1 113D3
    11400..11434 11447..1144A 1145F..11461 11480..114AF 114C4..114C5 114C7 11580..115AE
    115D8..115DB 11600..1162F 11644 11680..116AA 116B8 11800..1182B 118A0..118DF 118FF..11906
    11909 1190C..11913 11915..11916 11918..1192F 1193F 11941 119A0..119A7 119AA..119D0 119E1 119E3
    11A00 11A0B..11A32 11A3A 11A50 11A5C..11A89 11A9D 11AB0..11AF8 11BC0..11BE0 11C00..11C08
    11C0A..11C2E 11C40 11C72..11C8F 11D00..11D06 11D08..11D09 11D0B..11D30 11D46 11D60..11D65
    11D67..11D68 11D6A..11D89 11D98 11EE0..11EF2 11F02 11F04..11F10 11F12..11F33 11FB0
    12000..12399 12400..1246E 12480..12543 12F90..12FF0 13000..1342F 13441..13446 13460..143FA
    14400..14646 16100..1611D 16800..16A38 16A40..16A5E 16A70..16ABE 16AD0..16AED 16B00..16B2F
    16B40..16B43 16B63..16B77 16B7D..16B8F 16D40..16D6C 16E40..16E7F 16F00..16F4A 16F50
    16F93..16F9F 16FE0..16FE1 16FE3 1BC00..1BC6A 1BC70..1BC7C 1BC80..1BC88 1BC90..1BC99
    1D400..1D454 1D456..1D49C 1D49E..1D49F 1D4A2 1D4A5..1D4A6 1D4A9..1D4AC 1D4AE..1D4B9 1D4BB
    1D4BD..1D4C3 1D4C5..1D505 1D507..1D50A 1D50D..1D514 1D516..1D51C 1D51E..1D539 1D53B..1D53E
    1D540..1D544 1D546 1D54A..1D550 1D552..1D6A5 1D6A8..1D6C0 1D6C2..1D6DA 1D6DC..1D6FA
    1D6FC..1D714 1D716..1D734 1D736..1D74E 1D750..1D76E 1D770..1D788 1D78A..1D7A8 1D7AA..1D7C2
    1D7C4..1D7CB 1DF00..1DF1E 1DF25..1DF2A 1E030..1E06D 1E100..1E12C 1E137..1E13D 1E14E
    1E290..1E2AD 1E2C0..1E2EB 1E4D0..1E4EB 1E5D0..1E5ED 1E5F0 1E7E0..1E7E6 1E7E8..1E7EB
    1E7ED..1E7EE 1E7F0..1E7FE 1E800..1E8C4 1E900..1E943 1E94B 1EE00..1EE03 1EE05..1EE1F
    1EE21..1EE22 1EE24 1EE27 1EE29..1EE32 1EE34..1EE37 1EE39 1EE3B 1EE42 1EE47 1EE49 1EE4B
    1EE4D..1EE4F 1EE51..1EE52 1EE54 1EE57 1EE59 1EE5B 1EE5D 1EE5F 1EE61..1EE62 1EE64 1EE67..1EE6A
    1EE6C..1EE72 1EE74..1EE77 1EE79..1EE7C 1EE7E 1EE80..1EE89 1EE8B..1EE9B 1EEA1..1EEA3
    1EEA5..1EEA9 1EEAB..1EEBB 1F130..1F149 1F150..1F169 1F170..1F189"

/-- The code points of the class `CR`. -/
def cr : Ranges :=
  Ranges.ofText "000D"

/-- The code points of the class `Double Quote`. -/
def doubleQuote : Ranges :=
  Ranges.ofText "0022"

/-- The code points of the class `Extend`. -/
def extend : Ranges :=
  Ranges.ofText
    "0300..036F 0483..0489 0591..05BD 05BF 05C1..05C2 05C4..05C5 05C7 0610..061A 064B..065F 0670
    06D6..06DC 06DF..06E4 06E7..06E8 06EA..06ED 0711 0730..074A 07A6..07B0 07EB..07F3 07FD
    0816..0819 081B..0823 0825..0827 0829..082D 0859..085B 0897..089F 08CA..08E1 08E3..0903
    093A..093C 093E..094F 0951..0957 0962..0963 0981..0983 09BC 09BE..09C4 09C7..09C8 09CB..09CD
    09D7 09E2..09E3 09FE 0A01..0A03 0A3C 0A3E..0A42 0A47..0A48 0A4B..0A4D 0A51 0A70..0A71 0A75
    0A81..0A83 0ABC 0ABE..0AC5 0AC7..0AC9 0ACB..0ACD 0AE2..0AE3 0AFA..0AFF 0B01..0B03 0B3C
    0B3E..0B44 0B47..0B48 0B4B..0B4D 0B55..0B57 0B62..0B63 0B82 0BBE..0BC2 0BC6..0BC8 0BCA..0BCD
    0BD7 0C00..0C04 0C3C 0C3E..0C44 0C46..0C48 0C4A..0C4D 0C55..0C56 0C62..0C63 0C81..0C83 0CBC
    0CBE..0CC4 0CC6..0CC8 0CCA..0CCD 0CD5..0CD6 0CE2..0CE3 0CF3 0D00..0D03 0D3B..0D3C 0D3E..0D44
    0D46..0D48 0D4A..0D4D 0D57 0D62..0D63 0D81..0D83 0DCA 0DCF..0DD4 0DD6 0DD8..0DDF 0DF2..0DF3
    0E31 0E34..0E3A 0E47..0E4E 0EB1 0EB4..0EBC 0EC8..0ECE 0F18..0F19 0F35 0F37 0F39 0F3E..0F3F
    0F71..0F84 0F86..0F87 0F8D..0F97 0F99..0FBC 0FC6 102B..103E 1056..1059 105E..1060 1062..1064
    1067..106D 1071..1074 1082..108D 108F 109A..109D 135D..135F 1712..1715 1732..1734 1752..1753
    1772..1773 17B4..17D3 17DD 180B..180D 180F 1885..1886 18A9 1920..192B 1930..193B 1A17..1A1B
    1A55..1A5E 1A60..1A7C 1A7F 1AB0..1ACE 1B00..1B04 1B34..1B44 1B6B..1B73 1B80..1B82 1BA1..1BAD
    1BE6..1BF3 1C24..1C37 1CD0..1CD2 1CD4..1CE8 1CED 1CF4 1CF7..1CF9 1DC0..1DFF 200C 20D0..20F0
    2CEF..2CF1 2D7F 2DE0..2DFF 302A..302F 3099..309A A66F..A672 A674..A67D A69E..A69F A6F0..A6F1
    A802 A806 A80B A823..A827 A82C A880..A881 A8B4..A8C5 A8E0..A8F1 A8FF A926..A92D A947..A953
    A980..A983 A9B3..A9C0 A9E5 AA29..AA36 AA43 AA4C..AA4D AA7B..AA7D AAB0 AAB2..AAB4 AAB7..AAB8
    AABE..AABF AAC1 AAEB..AAEF AAF5..AAF6 ABE3..ABEA ABEC..ABED FB1E FE00..FE0F FE20..FE2F
    FF9E..FF9F 101FD 102E0 10376..1037A 10A01..10A03 10A05..10A06 10A0C..10A0F 10A38..10A3A 10A3F
    10AE5..10AE6 10D24..10D27 10D69..10D6D 10EAB..10EAC 10EFC..10EFF 10F46..10F50 10F82..10F85
    11000..11002 11038..11046 11070 11073..11074 1107F..11082 110B0..110BA 110C2 11100..11102
    11127..11134 11145..11146 11173 11180..11182 111B3..111C0 111C9..111CC 111CE..111CF
    1122C..11237 1123E 11241 112DF..112EA 11300..11303 1133B..1133C 1133E..11344 11347..11348
    1134B..1134D 11357 11362..11363 11366..1136C 11370..11374 113B8..113C0 113C2 113C5
    113C7..113CA 113CC..113D0 113D2 113E1..113E2 11435..11446 1145E 114B0..114C3 115AF..115B5
    115B8..115C0 115DC..115DD 11630..11640 116AB..116B7 1171D..1172B 1182C..1183A 11930..11935
    11937..11938 1193B..1193E 11940 11942..11943 119D1..119D7 119DA..119E0 119E4 11A01..11A0A
    11A33..11A39 11A3B..11A3E 11A47 11A51..11A5B 11A8A..11A99 11C2F..11C36 11C38..11C3F
    11C92..11CA7 11CA9..11CB6 11D31..11D36 11D3A 11D3C..11D3D 11D3F..11D45 11D47 11D8A..11D8E
    11D90..11D91 11D93..11D97 11EF3..11EF6 11F00..11F01 11F03 11F34..11F3A 11F3E..11F42 11F5A
    13440 13447..13455 1611E..1612F 16AF0..16AF4 16B30..16B36 16F4F 16F51..16F87 16F8F..16F92
    16FE4 16FF0..16FF1 1BC9D..1BC9E 1CF00..1CF2D 1CF30..1CF46 1D165..1D169 1D16D..1D172
    1D17B..1D182 1D185..1D18B 1D1AA..1D1AD 1D242..1D244 1DA00..1DA36 1DA3B..1DA6C 1DA75 1DA84
    1DA9B..1DA9F 1DAA1..1DAAF 1E000..1E006 1E008..1E018 1E01B..1E021 1E023..1E024 1E026..1E02A
    1E08F 1E130..1E136 1E2AE 1E2EC..1E2EF 1E4EC..1E4EF 1E5EE..1E5EF 1E8D0..1E8D6 1E944..1E94A
    1F3FB..1F3FF E0020..E007F E0100..E01EF"

/-- The code points of the class `Extend Num Let`. -/
def extendNumLet : Ranges :=
  Ranges.ofText "005F 202F 203F..2040 2054 FE33..FE34 FE4D..FE4F FF3F"

/-- The code points of the class `Format`. -/
def format : Ranges :=
  Ranges.ofText
    "00AD 061C 180E 200E..200F 202A..202E 2060..2064 2066..206F FEFF FFF9..FFFB 13430..1343F
    1BCA0..1BCA3 1D173..1D17A E0001"

/-- The code points of the class `Hebrew Letter`. -/
def hebrewLetter : Ranges :=
  Ranges.ofText
    "05D0..05EA 05EF..05F2 FB1D FB1F..FB28 FB2A..FB36 FB38..FB3C FB3E FB40..FB41 FB43..FB44
    FB46..FB4F"

/-- The code points of the class `Katakana`. -/
def katakana : Ranges :=
  Ranges.ofText
    "3031..3035 309B..309C 30A0..30FA 30FC..30FF 31F0..31FF 32D0..32FE 3300..3357 FF66..FF9D
    1AFF0..1AFF3 1AFF5..1AFFB 1AFFD..1AFFE 1B000 1B120..1B122 1B155 1B164..1B167"

/-- The code points of the class `LF`. -/
def lf : Ranges :=
  Ranges.ofText "000A"

/-- The code points of the class `Mid Letter`. -/
def midLetter : Ranges :=
  Ranges.ofText "003A 00B7 0387 055F 05F4 2027 FE13 FE55 FF1A"

/-- The code points of the class `Mid Num`. -/
def midNum : Ranges :=
  Ranges.ofText "002C 003B 037E 0589 060C..060D 066C 07F8 2044 FE50 FE54 FF0C FF1B"

/-- The code points of the class `Mid Num Let`. -/
def midNumLet : Ranges :=
  Ranges.ofText "002E 2018..2019 2024 FE52 FF07 FF0E"

/-- The code points of the class `Newline`. -/
def newline : Ranges :=
  Ranges.ofText "000B..000C 0085 2028..2029"

/-- The code points of the class `Numeric`. -/
def numeric : Ranges :=
  Ranges.ofText
    "0030..0039 0600..0605 0660..0669 066B 06DD 06F0..06F9 07C0..07C9 0890..0891 08E2 0966..096F
    09E6..09EF 0A66..0A6F 0AE6..0AEF 0B66..0B6F 0BE6..0BEF 0C66..0C6F 0CE6..0CEF 0D66..0D6F
    0DE6..0DEF 0E50..0E59 0ED0..0ED9 0F20..0F29 1040..1049 1090..1099 17E0..17E9 1810..1819
    1946..194F 19D0..19DA 1A80..1A89 1A90..1A99 1B50..1B59 1BB0..1BB9 1C40..1C49 1C50..1C59
    A620..A629 A8D0..A8D9 A900..A909 A9D0..A9D9 A9F0..A9F9 AA50..AA59 ABF0..ABF9 FF10..FF19
    104A0..104A9 10D30..10D39 10D40..10D49 11066..1106F 110BD 110CD 110F0..110F9 11136..1113F
    111D0..111D9 112F0..112F9 11450..11459 114D0..114D9 11650..11659 116C0..116C9 116D0..116E3
    11730..11739 118E0..118E9 11950..11959 11BF0..11BF9 11C50..11C59 11D50..11D59 11DA0..11DA9
    11F50..11F59 16130..16139 16A60..16A69 16AC0..16AC9 16B50..16B59 16D70..16D79 1CCF0..1CCF9
    1D7CE..1D7FF 1E140..1E149 1E2F0..1E2F9 1E4F0..1E4F9 1E5F1..1E5FA 1E950..1E959 1FBF0..1FBF9"

/-- The code points of the class `Regional Indicator`. -/
def regionalIndicator : Ranges :=
  Ranges.ofText "1F1E6..1F1FF"

/-- The code points of the class `Single Quote`. -/
def singleQuote : Ranges :=
  Ranges.ofText "0027"

/-- The code points of the class `W Seg Space`. -/
def wSegSpace : Ranges :=
  Ranges.ofText "0020 1680 2000..2006 2008..200A 205F 3000"

/-- The code points of the class `ZWJ`. -/
def zwj : Ranges :=
  Ranges.ofText "200D"

/-- Every class, by name. -/
def all : List NamedSet :=
  [ ⟨["le", "aletter"], aLetter.contains⟩,
    ⟨["cr"], cr.contains⟩,
    ⟨["dq", "doublequote"], doubleQuote.contains⟩,
    ⟨["extend"], extend.contains⟩,
    ⟨["ex", "extendnumlet"], extendNumLet.contains⟩,
    ⟨["fo", "format"], format.contains⟩,
    ⟨["hl", "hebrewletter"], hebrewLetter.contains⟩,
    ⟨["ka", "katakana"], katakana.contains⟩,
    ⟨["lf"], lf.contains⟩,
    ⟨["ml", "midletter"], midLetter.contains⟩,
    ⟨["mn", "midnum"], midNum.contains⟩,
    ⟨["mb", "midnumlet"], midNumLet.contains⟩,
    ⟨["nl", "newline"], newline.contains⟩,
    ⟨["nu", "numeric"], numeric.contains⟩,
    ⟨["ri", "regionalindicator"], regionalIndicator.contains⟩,
    ⟨["sq", "singlequote"], singleQuote.contains⟩,
    ⟨["wsegspace"], wSegSpace.contains⟩,
    ⟨["zwj"], zwj.contains⟩ ]

end WordBreak
end Gleaner.Unicode
