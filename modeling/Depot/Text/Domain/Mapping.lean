import Depot.Text.CodeRanges

namespace Depot.Text

def ignoredRanges : List (Nat × Nat) :=
  codeRanges
    "AD 34F 115F-1160 17B4-17B5 180B-180F 200B 2060-2064 206A-206F 3164 FE00-FE0F FEFF FFA0
    1BCA0-1BCA3 1D173-1D17A E0100-E01EF"

def disallowedRanges : List (Nat × Nat) :=
  codeRanges
    "80-9F 378-379 380-383 38B 38D 3A2 530 557-558 58B-58C 590 5C8-5CF 5EB-5EE 5F5-605 61C 6DD
    70E-70F 74B-74C 7B2-7BF 7FB-7FC 82E-82F 83F 85C-85D 85F 86B-86F 890-896 8E2 984 98D-98E
    991-992 9A9 9B1 9B3-9B5 9BA-9BB 9C5-9C6 9C9-9CA 9CF-9D6 9D8-9DB 9DE 9E4-9E5 9FF-A00 A04
    A0B-A0E A11-A12 A29 A31 A34 A37 A3A-A3B A3D A43-A46 A49-A4A A4E-A50 A52-A58 A5D A5F-A65
    A77-A80 A84 A8E A92 AA9 AB1 AB4 ABA-ABB AC6 ACA ACE-ACF AD1-ADF AE4-AE5 AF2-AF8 B00 B04
    B0D-B0E B11-B12 B29 B31 B34 B3A-B3B B45-B46 B49-B4A B4E-B54 B58-B5B B5E B64-B65 B78-B81 B84
    B8B-B8D B91 B96-B98 B9B B9D BA0-BA2 BA5-BA7 BAB-BAD BBA-BBD BC3-BC5 BC9 BCE-BCF BD1-BD6
    BD8-BE5 BFB-BFF C0D C11 C29 C3A-C3B C45 C49 C4E-C54 C57 C5B C5E-C5F C64-C65 C70-C76 C8D C91
    CA9 CB4 CBA-CBB CC5 CC9 CCE-CD4 CD7-CDB CDF CE4-CE5 CF0 CF4-CFF D0D D11 D45 D49 D50-D53
    D64-D65 D80 D84 D97-D99 DB2 DBC DBE-DBF DC7-DC9 DCB-DCE DD5 DD7 DE0-DE5 DF0-DF1 DF5-E00
    E3B-E3E E5C-E80 E83 E85 E8B EA4 EA6 EBE-EBF EC5 EC7 ECF EDA-EDB EE0-EFF F48 F6D-F70 F98 FBD
    FCD FDB-FFF 10C6 10C8-10CC 10CE-10CF 1249 124E-124F 1257 1259 125E-125F 1289 128E-128F 12B1
    12B6-12B7 12BF 12C1 12C6-12C7 12D7 1311 1316-1317 135B-135C 137D-137F 139A-139F 13F6-13F7
    13FE-13FF 1680 169D-169F 16F9-16FF 1716-171E 1737-173F 1754-175F 176D 1771 1774-177F
    17DE-17DF 17EA-17EF 17FA-17FF 181A-181F 1879-187F 18AB-18AF 18F6-18FF 191F 192C-192F
    193C-193F 1941-1943 196E-196F 1975-197F 19AC-19AF 19CA-19CF 19DB-19DD 1A1C-1A1D 1A5F
    1A7D-1A7E 1A8A-1A8F 1A9A-1A9F 1AAE-1AAF 1ADE-1ADF 1AEC-1AFF 1B4D 1BF4-1BFB 1C38-1C3A
    1C4A-1C4C 1C8B-1C8F 1CBB-1CBC 1CC8-1CCF 1CFB-1CFF 1F16-1F17 1F1E-1F1F 1F46-1F47 1F4E-1F4F
    1F58 1F5A 1F5C 1F5E 1F7E-1F7F 1FB5 1FC5 1FD4-1FD5 1FDC 1FF0-1FF1 1FF5 1FFF 200E-200F
    2024-2026 2028-202E 2065-2069 2072-2073 208F 209D-209F 20C2-20CF 20F1-20FF 218C-218F
    242A-243F 244B-245F 2488-249B 2B74-2B75 2CF4-2CF8 2D26 2D28-2D2C 2D2E-2D2F 2D68-2D6E
    2D71-2D7E 2D97-2D9F 2DA7 2DAF 2DB7 2DBF 2DC7 2DCF 2DD7 2DDF 2E5E-2E7F 2E9A 2EF4-2EFF
    2FD6-2FFF 3040 3097-3098 3100-3104 3130 318F 31E6-31EF 321F 33C2 33C7 33D8 A48D-A48F
    A4C7-A4CF A62C-A63F A6F8-A6FF A7DD-A7F0 A82D-A82F A83A-A83F A878-A87F A8C6-A8CD A8DA-A8DF
    A954-A95E A97D-A97F A9CE A9DA-A9DD A9FF AA37-AA3F AA4E-AA4F AA5A-AA5B AAC3-AADA AAF7-AB00
    AB07-AB08 AB0F-AB10 AB17-AB1F AB27 AB2F AB6C-AB6F ABEE-ABEF ABFA-ABFF D7A4-D7AF D7C7-D7CA
    D7FC-D7FF E000-F8FF FA6E-FA6F FADA-FAFF FB07-FB12 FB18-FB1C FB37 FB3D FB3F FB42 FB45
    FDD0-FDEF FE12 FE19-FE1F FE30 FE52-FE53 FE67 FE6C-FE6F FE75 FEFD-FEFE FF00 FFBF-FFC1
    FFC8-FFC9 FFD0-FFD1 FFD8-FFD9 FFDD-FFDF FFE7 FFEF-FFFF 1000C 10027 1003B 1003E 1004E-1004F
    1005E-1007F 100FB-100FF 10103-10106 10134-10136 1018F 1019D-1019F 101A1-101CF 101FE-1027F
    1029D-1029F 102D1-102DF 102FC-102FF 10324-1032C 1034B-1034F 1037B-1037F 1039E 103C4-103C7
    103D6-103FF 1049E-1049F 104AA-104AF 104D4-104D7 104FC-104FF 10528-1052F 10564-1056E 1057B
    1058B 10593 10596 105A2 105B2 105BA 105BD-105BF 105F4-105FF 10737-1073F 10756-1075F
    10768-1077F 10786 107B1 107BB-107FF 10806-10807 10809 10836 10839-1083B 1083D-1083E 10856
    1089F-108A6 108B0-108DF 108F3 108F6-108FA 1091C-1091E 1093A-1093E 1095A-1097F 109B8-109BB
    109D0-109D1 10A04 10A07-10A0B 10A14 10A18 10A36-10A37 10A3B-10A3E 10A49-10A4F 10A59-10A5F
    10AA0-10ABF 10AE7-10AEA 10AF7-10AFF 10B36-10B38 10B56-10B57 10B73-10B77 10B92-10B98
    10B9D-10BA8 10BB0-10BFF 10C49-10C7F 10CB3-10CBF 10CF3-10CF9 10D28-10D2F 10D3A-10D3F
    10D66-10D68 10D86-10D8D 10D90-10E5F 10E7F 10EAA 10EAE-10EAF 10EB2-10EC1 10EC8-10ECF
    10ED9-10EF9 10F28-10F2F 10F5A-10F6F 10F8A-10FAF 10FCC-10FDF 10FF7-10FFF 1104E-11051
    11076-1107E 110BD 110C3-110CF 110E9-110EF 110FA-110FF 11135 11148-1114F 11177-1117F 111E0
    111F5-111FF 11212 11242-1127F 11287 11289 1128E 1129E 112AA-112AF 112EB-112EF 112FA-112FF
    11304 1130D-1130E 11311-11312 11329 11331 11334 1133A 11345-11346 11349-1134A 1134E-1134F
    11351-11356 11358-1135C 11364-11365 1136D-1136F 11375-1137F 1138A 1138C-1138D 1138F 113B6
    113C1 113C3-113C4 113C6 113CB 113D6 113D9-113E0 113E3-113FF 1145C 11462-1147F 114C8-114CF
    114DA-1157F 115B6-115B7 115DE-115FF 11645-1164F 1165A-1165F 1166D-1167F 116BA-116BF
    116CA-116CF 116E4-116FF 1171B-1171C 1172C-1172F 11747-117FF 1183C-1189F 118F3-118FE
    11907-11908 1190A-1190B 11914 11917 11936 11939-1193A 11947-1194F 1195A-1199F 119A8-119A9
    119D8-119D9 119E5-119FF 11A48-11A4F 11AA3-11AAF 11AF9-11AFF 11B0A-11B5F 11B68-11BBF
    11BE2-11BEF 11BFA-11BFF 11C09 11C37 11C46-11C4F 11C6D-11C6F 11C90-11C91 11CA8 11CB7-11CFF
    11D07 11D0A 11D37-11D39 11D3B 11D3E 11D48-11D4F 11D5A-11D5F 11D66 11D69 11D8F 11D92
    11D99-11D9F 11DAA-11DAF 11DDC-11DDF 11DEA-11EDF 11EF9-11EFF 11F11 11F3B-11F3D 11F5B-11FAF
    11FB1-11FBF 11FF2-11FFE 1239A-123FF 1246F 12475-1247F 12544-12F8F 12FF3-12FFF 13430-1343F
    13456-1345F 143FB-143FF 14647-160FF 1613A-167FF 16A39-16A3F 16A5F 16A6A-16A6D 16ABF
    16ACA-16ACF 16AEE-16AEF 16AF6-16AFF 16B46-16B4F 16B5A 16B62 16B78-16B7C 16B90-16D3F
    16D7A-16E3F 16E9B-16E9F 16EB9-16EBA 16ED4-16EFF 16F4B-16F4E 16F88-16F8E 16FA0-16FDF
    16FE5-16FEF 16FF7-16FFF 18CD6-18CFE 18D1F-18D7F 18DF3-1AFEF 1AFF4 1AFFC 1AFFF 1B123-1B131
    1B133-1B14F 1B153-1B154 1B156-1B163 1B168-1B16F 1B2FC-1BBFF 1BC6B-1BC6F 1BC7D-1BC7F
    1BC89-1BC8F 1BC9A-1BC9B 1BCA4-1CBFF 1CCFD-1CCFF 1CEB4-1CEB9 1CED1-1CEDF 1CEF1-1CEFF
    1CF2E-1CF2F 1CF47-1CF4F 1CFC4-1CFFF 1D0F6-1D0FF 1D127-1D128 1D1EB-1D1FF 1D246-1D2BF
    1D2D4-1D2DF 1D2F4-1D2FF 1D357-1D35F 1D379-1D3FF 1D455 1D49D 1D4A0-1D4A1 1D4A3-1D4A4
    1D4A7-1D4A8 1D4AD 1D4BA 1D4BC 1D4C4 1D506 1D50B-1D50C 1D515 1D51D 1D53A 1D53F 1D545
    1D547-1D549 1D551 1D6A6-1D6A7 1D7CC-1D7CD 1DA8C-1DA9A 1DAA0 1DAB0-1DEFF 1DF1F-1DF24
    1DF2B-1DFFF 1E007 1E019-1E01A 1E022 1E025 1E02B-1E02F 1E06E-1E08E 1E090-1E0FF 1E12D-1E12F
    1E13E-1E13F 1E14A-1E14D 1E150-1E28F 1E2AF-1E2BF 1E2FA-1E2FE 1E300-1E4CF 1E4FA-1E5CF
    1E5FB-1E5FE 1E600-1E6BF 1E6DF 1E6F6-1E6FD 1E700-1E7DF 1E7E7 1E7EC 1E7EF 1E7FF 1E8C5-1E8C6
    1E8D7-1E8FF 1E94C-1E94F 1E95A-1E95D 1E960-1EC70 1ECB5-1ED00 1ED3E-1EDFF 1EE04 1EE20 1EE23
    1EE25-1EE26 1EE28 1EE33 1EE38 1EE3A 1EE3C-1EE41 1EE43-1EE46 1EE48 1EE4A 1EE4C 1EE50 1EE53
    1EE55-1EE56 1EE58 1EE5A 1EE5C 1EE5E 1EE60 1EE63 1EE65-1EE66 1EE6B 1EE73 1EE78 1EE7D 1EE7F
    1EE8A 1EE9C-1EEA0 1EEA4 1EEAA 1EEBC-1EEEF 1EEF2-1EFFF 1F02C-1F02F 1F094-1F09F 1F0AF-1F0B0
    1F0C0 1F0D0 1F0F6-1F100 1F1AE-1F1E5 1F203-1F20F 1F23C-1F23F 1F249-1F24F 1F252-1F25F
    1F266-1F2FF 1F6D9-1F6DB 1F6ED-1F6EF 1F6FD-1F6FF 1F7DA-1F7DF 1F7EC-1F7EF 1F7F1-1F7FF
    1F80C-1F80F 1F848-1F84F 1F85A-1F85F 1F888-1F88F 1F8AE-1F8AF 1F8BC-1F8BF 1F8C2-1F8CF
    1F8D9-1F8FF 1FA58-1FA5F 1FA6E-1FA6F 1FA7D-1FA7F 1FA8B-1FA8D 1FAC7 1FAC9-1FACC 1FADD-1FADE
    1FAEB-1FAEE 1FAF9-1FAFF 1FB93 1FBFB-1FFFF 2A6E0-2A6FF 2B81E-2B81F 2CEAE-2CEAF 2EBE1-2EBEF
    2EE5E-2F7FF 2FA1E-2FFFF 3134B-3134F 3347A-E00FF E01F0-10FFFF"

/-- Replacements for characters that follow each other: after a colon one character for each, after
an equals sign texts with bars between them. The sign for a blank stands for a blank. -/
def replacementText : String :=
   "41:abcdefghijklmnopqrstuvwxyz
    A0:␣
    A8=␣̈
    AA:a
    AF=␣̄
    B2:23
    B4=␣́
    B5:μ
    B8=␣̧
    B9:1o
    BC=1⁄4|1⁄2|3⁄4
    C0:àáâãäåæçèéêëìíîïðñòóôõö×øùúûüýþ
    100:āāăăąąććĉĉċċččďďđđēēĕĕėėęęěěĝĝğğġġģģĥĥħħ
    128:ĩĩīīĭĭį
    130=i̇
    132=ij|ij
    134:ĵĵķ
    139:ĺĺļļľ
    13F=l·|l·
    141:łłńńņņň
    149=ʼn
    14A:ŋŋōōŏŏőőœœŕŕŗŗřřśśŝŝşşššţţťťŧŧũũūūŭŭůůűű
    172:ųųŵŵŷŷÿźźżżžžsƀɓƃƃƅƅɔƈƈɖɗƌ
    18E:ǝəɛƒƒɠɣƕɩɨƙ
    19C:ɯɲƞɵơơƣƣƥƥʀƨƨʃ
    1AC:ƭƭʈưưʊʋƴƴƶƶʒƹ
    1BC:ƽ
    1C4=dž|dž|dž|lj|lj|lj|nj|nj|nj
    1CD:ǎǎǐǐǒǒǔǔǖǖǘǘǚǚǜ
    1DE:ǟǟǡǡǣǣǥǥǧǧǩǩǫǫǭǭǯ
    1F1=dz|dz|dz
    1F4:ǵǵƕƿǹǹǻǻǽǽǿǿȁȁȃȃȅȅȇȇȉȉȋȋȍȍȏȏȑȑȓȓȕȕȗȗșșțț
    21C:ȝȝȟȟƞȡȣȣȥȥȧȧȩȩȫȫȭȭȯȯȱȱȳ
    23A:ⱥȼȼƚⱦ
    241:ɂɂƀʉʌɇɇɉɉɋɋɍɍɏ
    2B0:hɦjrɹɻʁwy
    2D8=␣̆|␣̇|␣̊|␣̨|␣̃|␣̋
    2E0:ɣlsxʕ
    340:̀́͂̓
    344=̈́
    345:ι
    370:ͱͱͳͳʹ͵ͷ
    37A=␣ι
    37E:;ϳ
    384=␣́|␣̈́
    386:ά·έήί
    38C:ό
    38E:ύώΐαβγδεζηθικλμνξοπρ
    3A3:στυφχψωϊϋ
    3CF:ϗβθυύϋφπϗϙϙϛϛϝϝϟϟϡϡϣϣϥϥϧϧϩϩϫϫϭϭϯϯκρσϳθε϶
    3F7:ϸϸσϻ
    3FD:ͻͼͽѐёђѓєѕіїјљњћќѝўџабвгдежзийклмнопрстуф
    425:хцчшщъыьэюя
    460:ѡѡѣѣѥѥѧѧѩѩѫѫѭѭѯѯѱѱѳѳѵѵѷѷѹѹѻѻѽѽѿѿҁ
    48A:ҋҋҍҍҏҏґґғғҕҕҗҗҙҙққҝҝҟҟҡҡңңҥҥҧҧҩҩҫҫҭҭүүұұ
    4B2:ҳҳҵҵҷҷҹҹһһҽҽҿҿӏӂӂӄӄӆӆӈӈӊӊӌӌӎ
    4D0:ӑӑӓӓӕӕӗӗәәӛӛӝӝӟӟӡӡӣӣӥӥӧӧөөӫӫӭӭӯӯӱӱӳӳӵӵӷӷ
    4F8:ӹӹӻӻӽӽӿӿԁԁԃԃԅԅԇԇԉԉԋԋԍԍԏԏԑԑԓԓԕԕԗԗԙԙԛԛԝԝԟԟ
    520:ԡԡԣԣԥԥԧԧԩԩԫԫԭԭԯ
    531:աբգդեզէըթժիլխծկհձղճմյնշոչպջռսվտրցւփքօֆ
    587=եւ
    675=اٴ|وٴ|ۇٴ|يٴ
    958=क़|ख़|ग़|ज़|ड़|ढ़|फ़|य़
    9DC=ড়|ঢ়
    9DF=য়
    A33=ਲ਼
    A36=ਸ਼
    A59=ਖ਼|ਗ਼|ਜ਼
    A5E=ਫ਼
    B5C=ଡ଼|ଢ଼
    E33=ํา
    EB3=ໍາ
    EDC=ຫນ|ຫມ
    F0C:་
    F43=གྷ
    F4D=ཌྷ
    F52=དྷ
    F57=བྷ
    F5C=ཛྷ
    F69=ཀྵ
    F73=ཱི
    F75=ཱུ|ྲྀ|ྲཱྀ|ླྀ|ླཱྀ
    F81=ཱྀ
    F93=ྒྷ
    F9D=ྜྷ
    FA2=ྡྷ
    FA7=ྦྷ
    FAC=ྫྷ
    FB9=ྐྵ
    10A0:ⴀⴁⴂⴃⴄⴅⴆⴇⴈⴉⴊⴋⴌⴍⴎⴏⴐⴑⴒⴓⴔⴕⴖⴗⴘⴙⴚⴛⴜⴝⴞⴟⴠⴡⴢⴣⴤⴥ
    10C7:ⴧ
    10CD:ⴭ
    10FC:ნ
    13F8:ᏰᏱᏲᏳᏴᏵ
    1C80:вдосттъѣꙋᲊ
    1C90:აბგდევზთიკლმნოპჟრსტუფქღყშჩცძწჭხჯჰჱჲჳჴჵჶჷ
    1CB8:ჸჹჺ
    1CBD:ჽჾჿ
    1D2C:aæbᴯdeǝghijklmnᴻoȣprtuwaɐɑᴂbdeəɛɜgᵎkmŋoɔ
    1D54:ᴖᴗptuᴝɯvᴥβγδφχiruvβγρφχ
    1D78:н
    1D9B:ɒcɕðɜfɟɡɥɨɩɪᵻʝɭᶅʟɱɰɲɳɴɵɸʂʃƫʉʊᴜʋʌzʐʑʒθ
    1E00:ḁḁḃḃḅḅḇḇḉḉḋḋḍḍḏḏḑḑḓḓḕḕḗḗḙḙḛḛḝḝḟḟḡḡḣḣḥḥḧḧ
    1E28:ḩḩḫḫḭḭḯḯḱḱḳḳḵḵḷḷḹḹḻḻḽḽḿḿṁṁṃṃṅṅṇṇṉṉṋṋṍṍṏṏ
    1E50:ṑṑṓṓṕṕṗṗṙṙṛṛṝṝṟṟṡṡṣṣṥṥṧṧṩṩṫṫṭṭṯṯṱṱṳṳṵṵṷṷ
    1E78:ṹṹṻṻṽṽṿṿẁẁẃẃẅẅẇẇẉẉẋẋẍẍẏẏẑẑẓẓẕ
    1E9A=aʾ
    1E9B:ṡ
    1E9E:ßẟạạảảấấầầẩẩẫẫậậắắằằẳẳẵẵặặẹẹẻẻẽẽếếềềểểễễ
    1EC6:ệệỉỉịịọọỏỏốốồồổổỗỗộộớớờờởởỡỡợợụụủủứứừừửử
    1EEE:ữữựựỳỳỵỵỷỷỹỹỻỻỽỽỿ
    1F08:ἀἁἂἃἄἅἆἇ
    1F18:ἐἑἒἓἔἕ
    1F28:ἠἡἢἣἤἥἦἧ
    1F38:ἰἱἲἳἴἵἶἷ
    1F48:ὀὁὂὃὄὅ
    1F59:ὑ
    1F5B:ὓ
    1F5D:ὕ
    1F5F:ὗ
    1F68:ὠὡὢὣὤὥὦὧὰάὲέὴήὶίὸόὺύὼώ
    1F80=ἀι|ἁι|ἂι|ἃι|ἄι|ἅι|ἆι|ἇι|ἀι|ἁι|ἂι|ἃι|ἄι|ἅι|ἆι|ἇι
    1F90=ἠι|ἡι|ἢι|ἣι|ἤι|ἥι|ἦι|ἧι|ἠι|ἡι|ἢι|ἣι|ἤι|ἥι|ἦι|ἧι
    1FA0=ὠι|ὡι|ὢι|ὣι|ὤι|ὥι|ὦι|ὧι|ὠι|ὡι|ὢι|ὣι|ὤι|ὥι|ὦι|ὧι
    1FB2=ὰι|αι|άι
    1FB7=ᾶι
    1FB8:ᾰᾱὰά
    1FBC=αι|␣̓
    1FBE:ι
    1FBF=␣̓|␣͂|␣̈͂|ὴι|ηι|ήι
    1FC7=ῆι
    1FC8:ὲέὴή
    1FCC=ηι|␣̓̀|␣̓́|␣̓͂
    1FD3:ΐ
    1FD8:ῐῑὶί
    1FDD=␣̔̀|␣̔́|␣̔͂
    1FE3:ΰ
    1FE8:ῠῡὺύῥ
    1FED=␣̈̀|␣̈́
    1FEF:`
    1FF2=ὼι|ωι|ώι
    1FF7=ῶι
    1FF8:ὸόὼώ
    1FFC=ωι|␣́|␣̔
    2000:␣␣␣␣␣␣␣␣␣␣␣
    2011:‐
    2017=␣̳
    202F:␣
    2033=′′|′′′
    2036=‵‵|‵‵‵
    203C=!!
    203E=␣̅
    2047=??|?!|!?
    2057=′′′′
    205F:␣
    2070:0i
    2074:456789+−=()n0123456789+−=()
    2090:aeoxəhklmnpst
    20A8=rs
    2100=a/c|a/s
    2102:c
    2103=°c
    2105=c/o|c/u
    2107:ɛ
    2109=°f
    210A:ghhhhħiill℔n
    2116=no
    2119:pqrrr
    2120=sm|tel|tm
    2124:z℥ω℧z℩kåbc℮eefⅎmoאבגדi
    213B=fax
    213C:πγγπ∑
    2145:ddeij
    2150=1⁄7|1⁄9|1⁄10|1⁄3|2⁄3|1⁄5|2⁄5|3⁄5|4⁄5|1⁄6|5⁄6|1⁄8
    215C=3⁄8|5⁄8|7⁄8|1⁄
    2160:i
    2161=ii|iii|iv
    2164:v
    2165=vi|vii|viii|ix
    2169:x
    216A=xi|xii
    216C:lcdmi
    2171=ii|iii|iv
    2174:v
    2175=vi|vii|viii|ix
    2179:x
    217A=xi|xii
    217C:lcdm
    2183:ↄ
    2189=0⁄3
    222C=∫∫|∫∫∫
    222F=∮∮|∮∮∮
    2329:〈〉
    2460:123456789
    2469=10|11|12|13|14|15|16|17|18|19|20|(1)|(2)|(3)|(4)
    2478=(5)|(6)|(7)|(8)|(9)|(10)|(11)|(12)|(13)|(14)|(15)
    2483=(16)|(17)|(18)|(19)|(20)
    249C=(a)|(b)|(c)|(d)|(e)|(f)|(g)|(h)|(i)|(j)|(k)|(l)
    24A8=(m)|(n)|(o)|(p)|(q)|(r)|(s)|(t)|(u)|(v)|(w)|(x)
    24B4=(y)|(z)
    24B6:abcdefghijklmnopqrstuvwxyzabcdefghijklmn
    24DE:opqrstuvwxyz0
    2A0C=∫∫∫∫
    2A74=::=|==|===
    2ADC=⫝̸
    2C00:ⰰⰱⰲⰳⰴⰵⰶⰷⰸⰹⰺⰻⰼⰽⰾⰿⱀⱁⱂⱃⱄⱅⱆⱇⱈⱉⱊⱋⱌⱍⱎⱏⱐⱑⱒⱓⱔⱕⱖⱗ
    2C28:ⱘⱙⱚⱛⱜⱝⱞⱟ
    2C60:ⱡⱡɫᵽɽ
    2C67:ⱨⱨⱪⱪⱬⱬɑɱɐɒⱱⱳ
    2C75:ⱶ
    2C7C:jvȿɀⲁⲁⲃⲃⲅⲅⲇⲇⲉⲉⲋⲋⲍⲍⲏⲏⲑⲑⲓⲓⲕⲕⲗⲗⲙⲙⲛⲛⲝⲝⲟⲟⲡⲡⲣⲣ
    2CA4:ⲥⲥⲧⲧⲩⲩⲫⲫⲭⲭⲯⲯⲱⲱⲳⲳⲵⲵⲷⲷⲹⲹⲻⲻⲽⲽⲿⲿⳁⳁⳃⳃⳅⳅⳇⳇⳉⳉⳋⳋ
    2CCC:ⳍⳍⳏⳏⳑⳑⳓⳓⳕⳕⳗⳗⳙⳙⳛⳛⳝⳝⳟⳟⳡⳡⳣ
    2CEB:ⳬⳬⳮ
    2CF2:ⳳ
    2D6F:ⵡ
    2E9F:母
    2EF3:龟
    2F00:一丨丶丿乙亅二亠人儿入八冂冖冫几凵刀力勹匕匚匸十卜卩厂厶又口囗土士夂夊夕大女子宀
    2F28:寸小尢尸屮山巛工己巾干幺广廴廾弋弓彐彡彳心戈戶手支攴文斗斤方无日曰月木欠止歹殳毋
    2F50:比毛氏气水火爪父爻爿片牙牛犬玄玉瓜瓦甘生用田疋疒癶白皮皿目矛矢石示禸禾穴立竹米糸
    2F78:缶网羊羽老而耒耳聿肉臣自至臼舌舛舟艮色艸虍虫血行衣襾見角言谷豆豕豸貝赤走足身車辛
    2FA0:辰辵邑酉釆里金長門阜隶隹雨靑非面革韋韭音頁風飛食首香馬骨高髟鬥鬯鬲鬼魚鳥鹵鹿麥麻
    2FC8:黃黍黑黹黽鼎鼓鼠鼻齊齒龍龜龠
    3000:␣、.
    3036:〒〷十卄卅
    309B=␣゙|␣゚
    309F=より
    30FF=コト
    3131:ᄀᄁᆪᄂᆬᆭᄃᄄᄅᆰᆱᆲᆳᆴᆵᄚᄆᄇᄈᄡᄉᄊᄋᄌᄍᄎᄏᄐᄑ하ᅢᅣᅤᅥᅦᅧᅨᅩᅪ
    3159:ᅫᅬᅭᅮᅯᅰᅱᅲᅳᅴᅵ
    3165:ᄔᄕᇇᇈᇌᇎᇓᇗᇙᄜᇝᇟᄝᄞᄠᄢᄣᄧᄩᄫᄬᄭᄮᄯᄲᄶᅀᅇᅌᇱᇲᅗᅘᅙᆄᆅᆈᆑᆒᆔ
    318D:ᆞᆡ
    3192:一二三四上中下甲乙丙丁天地人
    3200=(ᄀ)|(ᄂ)|(ᄃ)|(ᄅ)|(ᄆ)|(ᄇ)|(ᄉ)|(ᄋ)|(ᄌ)|(ᄎ)|(ᄏ)|(ᄐ)
    320C=(ᄑ)|(ᄒ)|(가)|(나)|(다)|(라)|(마)|(바)|(사)|(아)|(자)|(차)
    3218=(카)|(타)|(파)|(하)|(주)|(오전)|(오후)
    3220=(一)|(二)|(三)|(四)|(五)|(六)|(七)|(八)|(九)|(十)|(月)|(火)
    322C=(水)|(木)|(金)|(土)|(日)|(株)|(有)|(社)|(名)|(特)|(財)|(祝)
    3238=(労)|(代)|(呼)|(学)|(監)|(企)|(資)|(協)|(祭)|(休)|(自)|(至)
    3244:問幼文箏
    3250=pte|21|22|23|24|25|26|27|28|29|30|31|32|33|34|35
    3260:ᄀᄂᄃᄅᄆᄇᄉᄋᄌᄎᄏᄐᄑᄒ가나다라마바사아자차카타파하
    327C=참고|주의
    327E:우㉿一二三四五六七八九十月火水木金土日株有社名特財祝労秘男女適優印注項休写正上中
    32A6:下左右医宗学監企資協夜
    32B1=36|37|38|39|40|41|42|43|44|45|46|47|48|49|50|1月
    32C1=2月|3月|4月|5月|6月|7月|8月|9月|10月|11月|12月|hg|erg|ev|ltd
    32D0:アイウエオカキクケコサシスセソタチツテトナニヌネノハヒフヘホマミムメモヤユヨラリ
    32F8:ルレロワヰヱヲ
    32FF=令和|アパート|アルファ|アンペア|アール|イニング|インチ|ウォン|エスクード|エーカー|オンス
    330A=オーム|カイリ|カラット|カロリー|ガロン|ガンマ|ギガ|ギニー|キュリー|ギルダー|キロ
    3315=キログラム|キロメートル|キロワット|グラム|グラムトン|クルゼイロ|クローネ|ケース|コルナ
    331E=コーポ|サイクル|サンチーム|シリング|センチ|セント|ダース|デシ|ドル|トン|ナノ|ノット
    332A=ハイツ|パーセント|パーツ|バーレル|ピアストル|ピクル|ピコ|ビル|ファラッド|フィート
    3334=ブッシェル|フラン|ヘクタール|ペソ|ペニヒ|ヘルツ|ペンス|ページ|ベータ|ポイント|ボルト
    333F=ホン|ポンド|ホール|ホーン|マイクロ|マイル|マッハ|マルク|マンション|ミクロン|ミリ
    334A=ミリバール|メガ|メガトン|メートル|ヤード|ヤール|ユアン|リットル|リラ|ルピー|ルーブル
    3355=レム|レントゲン|ワット|0点|1点|2点|3点|4点|5点|6点|7点|8点|9点|10点
    3363=11点|12点|13点|14点|15点|16点|17点|18点|19点|20点|21点|22点
    336F=23点|24点|hpa|da|au|bar|ov|pc|dm|dm2|dm3|iu|平成|昭和
    337D=大正|明治|株式会社|pa|na|μa|ma|ka|kb|mb|gb|cal|kcal|pf|nf
    338C=μf|μg|mg|kg|hz|khz|mhz|ghz|thz|μl|ml|dl|kl|fm|nm
    339B=μm|mm|cm|km|mm2|cm2|m2|km2|mm3|cm3|m3|km3|m∕s
    33A8=m∕s2|pa|kpa|mpa|gpa|rad|rad∕s|rad∕s2|ps|ns|μs|ms
    33B4=pv|nv|μv|mv|kv|mv|pw|nw|μw|mw|kw|mw|kω|mω
    33C3=bq|cc|cd|c∕kg
    33C8=db|gy|ha|hp|in|kk|km|kt|lm|ln|log|lx|mb|mil|mol
    33D7=ph
    33D9=ppm|pr|sr|sv|wb|v∕m|a∕m|1日|2日|3日|4日|5日|6日|7日|8日
    33E8=9日|10日|11日|12日|13日|14日|15日|16日|17日|18日|19日|20日
    33F4=21日|22日|23日|24日|25日|26日|27日|28日|29日|30日|31日|gal
    A640:ꙁꙁꙃꙃꙅꙅꙇꙇꙉꙉꙋꙋꙍꙍꙏꙏꙑꙑꙓꙓꙕꙕꙗꙗꙙꙙꙛꙛꙝꙝꙟꙟꙡꙡꙣꙣꙥꙥꙧꙧ
    A668:ꙩꙩꙫꙫꙭ
    A680:ꚁꚁꚃꚃꚅꚅꚇꚇꚉꚉꚋꚋꚍꚍꚏꚏꚑꚑꚓꚓꚕꚕꚗꚗꚙꚙꚛꚛъь
    A722:ꜣꜣꜥꜥꜧꜧꜩꜩꜫꜫꜭꜭꜯ
    A732:ꜳꜳꜵꜵꜷꜷꜹꜹꜻꜻꜽꜽꜿꜿꝁꝁꝃꝃꝅꝅꝇꝇꝉꝉꝋꝋꝍꝍꝏꝏꝑꝑꝓꝓꝕꝕꝗꝗꝙꝙ
    A75A:ꝛꝛꝝꝝꝟꝟꝡꝡꝣꝣꝥꝥꝧꝧꝩꝩꝫꝫꝭꝭꝯꝯꝯ
    A779:ꝺꝺꝼꝼᵹꝿꝿꞁꞁꞃꞃꞅꞅꞇ
    A78B:ꞌꞌɥ
    A790:ꞑꞑꞓ
    A796:ꞗꞗꞙꞙꞛꞛꞝꞝꞟꞟꞡꞡꞣꞣꞥꞥꞧꞧꞩꞩɦɜɡɬɪꞯʞʇʝꭓꞵꞵꞷꞷꞹꞹꞻꞻꞽꞽ
    A7BE:ꞿꞿꟁꟁꟃꟃꞔʂᶎꟈꟈꟊꟊɤꟍꟍ꟏꟏ꟑꟑꟓꟓꟕꟕꟗꟗꟙꟙꟛꟛƛ
    A7F1:scfqꟶ
    A7F8:ħœ
    AB5C:ꜧꬷɫꭒ
    AB69:ʍ
    AB70:ᎠᎡᎢᎣᎤᎥᎦᎧᎨᎩᎪᎫᎬᎭᎮᎯᎰᎱᎲᎳᎴᎵᎶᎷᎸᎹᎺᎻᎼᎽᎾᎿᏀᏁᏂᏃᏄᏅᏆᏇ
    AB98:ᏈᏉᏊᏋᏌᏍᏎᏏᏐᏑᏒᏓᏔᏕᏖᏗᏘᏙᏚᏛᏜᏝᏞᏟᏠᏡᏢᏣᏤᏥᏦᏧᏨᏩᏪᏫᏬᏭᏮᏯ
    F900:豈更車賈滑串句龜龜契金喇奈懶癩羅蘿螺裸邏樂洛烙珞落酪駱亂卵欄爛蘭鸞嵐濫藍襤拉臘蠟
    F928:廊朗浪狼郎來冷勞擄櫓爐盧老蘆虜路露魯鷺碌祿綠菉錄鹿論壟弄籠聾牢磊賂雷壘屢樓淚漏累
    F950:縷陋勒肋凜凌稜綾菱陵讀拏樂諾丹寧怒率異北磻便復不泌數索參塞省葉說殺辰沈拾若掠略亮
    F978:兩凉梁糧良諒量勵呂女廬旅濾礪閭驪麗黎力曆歷轢年憐戀撚漣煉璉秊練聯輦蓮連鍊列劣咽烈
    F9A0:裂說廉念捻殮簾獵令囹寧嶺怜玲瑩羚聆鈴零靈領例禮醴隸惡了僚寮尿料樂燎療蓼遼龍暈阮劉
    F9C8:杻柳流溜琉留硫紐類六戮陸倫崙淪輪律慄栗率隆利吏履易李梨泥理痢罹裏裡里離匿溺吝燐璘
    F9F0:藺隣鱗麟林淋臨立笠粒狀炙識什茶刺切度拓糖宅洞暴輻行降見廓兀嗀
    FA10:塚﨑晴
    FA15:凞猪益礼神祥福靖精羽﨟蘒﨡諸
    FA25:逸都
    FA2A:飯飼館鶴郞隷侮僧免勉勤卑喝嘆器塀墨層屮悔慨憎懲敏既暑梅海渚漢煮爫琢碑社祉祈祐祖祝
    FA52:禍禎穀突節練縉繁署者臭艹艹著褐視謁謹賓贈辶逸難響頻恵𤋮舘
    FA70:並况全侀充冀勇勺喝啕喙嗢塚墳奄奔婢嬨廒廙彩徭惘慎愈憎慠懲戴揄搜摒敖晴朗望杖歹殺流
    FA98:滛滋漢瀞煮瞧爵犯猪瑱甆画瘝瘟益盛直睊着磌窱節类絛練缾者荒華蝹襁覆視調諸請謁諾諭謹
    FAC0:變贈輸遲醙鉶陼難靖韛響頋頻鬒龜𢡊𢡄𣏕㮝䀘䀹𥉉𥳐𧻓齃龎
    FB00=ff|fi|fl|ffi|ffl|st|st
    FB13=մն|մե|մի|վն|մխ
    FB1D=יִ
    FB1F=ײַ
    FB20:עאדהכלםרת+
    FB2A=שׁ|שׂ|שּׁ|שּׂ|אַ|אָ|אּ|בּ|גּ|דּ|הּ|וּ|זּ
    FB38=טּ|יּ|ךּ|כּ|לּ
    FB3E=מּ
    FB40=נּ|סּ
    FB43=ףּ|פּ
    FB46=צּ|קּ|רּ|שּ|תּ|וֹ|בֿ|כֿ|פֿ|אל
    FB50:ٱٱٻٻٻٻپپپپڀڀڀڀٺٺٺٺٿٿٿٿٹٹٹٹڤڤڤڤڦڦڦڦڄڄڄڄڃڃ
    FB78:ڃڃچچچچڇڇڇڇڍڍڌڌڎڎڈڈژژڑڑککککگگگگڳڳڳڳڱڱڱڱںں
    FBA0:ڻڻڻڻۀۀہہہہھھھھےےۓۓ
    FBD3:ڭڭڭڭۇۇۆۆۈۈ
    FBDD=ۇٴ
    FBDE:ۋۋۅۅۉۉېېېېىى
    FBEA=ئا|ئا|ئە|ئە|ئو|ئو|ئۇ|ئۇ|ئۆ|ئۆ|ئۈ|ئۈ|ئې|ئې|ئې|ئى
    FBFA=ئى|ئى
    FBFC:یییی
    FC00=ئج|ئح|ئم|ئى|ئي|بج|بح|بخ|بم|بى|بي|تج|تح|تخ|تم|تى
    FC10=تي|ثج|ثم|ثى|ثي|جح|جم|حج|حم|خج|خح|خم|سج|سح|سخ|سم
    FC20=صح|صم|ضج|ضح|ضخ|ضم|طح|طم|ظم|عج|عم|غج|غم|فج|فح|فخ
    FC30=فم|فى|في|قح|قم|قى|قي|كا|كج|كح|كخ|كل|كم|كى|كي|لج
    FC40=لح|لخ|لم|لى|لي|مج|مح|مخ|مم|مى|مي|نج|نح|نخ|نم|نى
    FC50=ني|هج|هم|هى|هي|يج|يح|يخ|يم|يى|يي|ذٰ|رٰ|ىٰ|␣ٌّ|␣ٍّ
    FC60=␣َّ|␣ُّ|␣ِّ|␣ّٰ|ئر|ئز|ئم|ئن|ئى|ئي|بر|بز|بم|بن|بى
    FC6F=بي|تر|تز|تم|تن|تى|تي|ثر|ثز|ثم|ثن|ثى|ثي|فى|في|قى
    FC7F=قي|كا|كل|كم|كى|كي|لم|لى|لي|ما|مم|نر|نز|نم|نن|نى
    FC8F=ني|ىٰ|ير|يز|يم|ين|يى|يي|ئج|ئح|ئخ|ئم|ئه|بج|بح|بخ
    FC9F=بم|به|تج|تح|تخ|تم|ته|ثم|جح|جم|حج|حم|خج|خم|سج|سح
    FCAF=سخ|سم|صح|صخ|صم|ضج|ضح|ضخ|ضم|طح|ظم|عج|عم|غج|غم|فج
    FCBF=فح|فخ|فم|قح|قم|كج|كح|كخ|كل|كم|لج|لح|لخ|لم|له|مج
    FCCF=مح|مخ|مم|نج|نح|نخ|نم|نه|هج|هم|هٰ|يج|يح|يخ|يم|يه
    FCDF=ئم|ئه|بم|به|تم|ته|ثم|ثه|سم|سه|شم|شه|كل|كم|لم|نم
    FCEF=نه|يم|يه|ـَّ|ـُّ|ـِّ|طى|طي|عى|عي|غى|غي|سى|سي|شى
    FCFE=شي|حى|حي|جى|جي|خى|خي|صى|صي|ضى|ضي|شج|شح|شخ|شم|شر
    FD0E=سر|صر|ضر|طى|طي|عى|عي|غى|غي|سى|سي|شى|شي|حى|حي|جى
    FD1E=جي|خى|خي|صى|صي|ضى|ضي|شج|شح|شخ|شم|شر|سر|صر|ضر|شج
    FD2E=شح|شخ|شم|سه|شه|طم|سج|سح|سخ|شج|شح|شخ|طم|ظم|اً|اً
    FD50=تجم|تحج|تحج|تحم|تخم|تمج|تمح|تمخ|جمح|جمح|حمي|حمى
    FD5C=سحج|سجح|سجى|سمح|سمح|سمج|سمم|سمم|صحح|صحح|صمم|شحم
    FD68=شحم|شجي|شمخ|شمخ|شمم|شمم|ضحى|ضخم|ضخم|طمح|طمح|طمم
    FD74=طمي|عجم|عمم|عمم|عمى|غمم|غمي|غمى|فخم|فخم|قمح|قمم
    FD80=لحم|لحي|لحى|لجج|لجج|لخم|لخم|لمح|لمح|محج|محم|محي
    FD8C=مجح|مجم|مخج|مخم
    FD92=مجخ|همج|همم|نحم|نحى|نجم|نجم|نجى|نمي|نمى|يمم|يمم
    FD9E=بخي|تجي|تجى|تخي|تخى|تمي|تمى|جمي|جحى|جمى|سخى|صحي
    FDAA=شحي|ضحي|لجي|لمي|يحي|يجي|يمي|ممي|قمي|نحي|قمح|لحم
    FDB6=عمي|كمي|نجح|مخي|لجم|كمم|لجم|نجح|جحي|حجي|مجي|فمي
    FDC2=بحي|كمم|عجم|صمم|سخي|نجي
    FDF0=صلے|قلے|الله|اكبر|محمد|صلعم|رسول|عليه|وسلم|صلى
    FDFA=صلى␣الله␣عليه␣وسلم|جل␣جلاله|ریال
    FE10:,、
    FE13::;!?〖〗
    FE31:—–__()\x7b\x7d〔〕【】《》〈〉「」『』
    FE47:[]
    FE49=␣̅|␣̅|␣̅|␣̅
    FE4D:___,、
    FE54:;:?!—()\x7b\x7d〔〕#&*+-<>=
    FE68:\\$%@
    FE70=␣ً|ـً|␣ٌ
    FE74=␣ٍ
    FE76=␣َ|ـَ|␣ُ|ـُ|␣ِ|ـِ|␣ّ|ـّ|␣ْ|ـْ
    FE80:ءآآأأؤؤإإئئئئااببببةةتتتتثثثثججججححححخخخ
    FEA8:خددذذررززسسسسششششصصصصضضضضططططظظظظععععغغغ
    FED0:غففففققققككككللللممممننننههههووىىيييي
    FEF5=لآ|لآ|لأ|لأ|لإ|لإ|لا|لا
    FF01:!\"#$%&'()*+,-./0123456789:;<=>?@abcdefgh
    FF29:ijklmnopqrstuvwxyz[\\]^_`abcdefghijklmnop
    FF51:qrstuvwxyz\x7b|\x7d~⦅⦆.「」、・ヲァィゥェォャュョッーアイウエオカキク
    FF79:ケコサシスセソタチツテトナニヌネノハヒフヘホマミムメモヤユヨラリルレロワン゙゚
    FFA1:ᄀᄁᆪᄂᆬᆭᄃᄄᄅᆰᆱᆲᆳᆴᆵᄚᄆᄇᄈᄡᄉᄊᄋᄌᄍᄎᄏᄐᄑᄒ
    FFC2:ᅡᅢᅣᅤᅥᅦ
    FFCA:ᅧᅨᅩᅪᅫᅬ
    FFD2:ᅭᅮᅯᅰᅱᅲ
    FFDA:ᅳᅴᅵ
    FFE0:¢£¬
    FFE3=␣̄
    FFE4:¦¥₩
    FFE8:│←↑→↓■○
    10400:𐐨𐐩𐐪𐐫𐐬𐐭𐐮𐐯𐐰𐐱𐐲𐐳𐐴𐐵𐐶𐐷𐐸𐐹𐐺𐐻𐐼𐐽𐐾𐐿𐑀𐑁𐑂𐑃𐑄𐑅𐑆𐑇𐑈𐑉𐑊𐑋𐑌𐑍𐑎𐑏
    104B0:𐓘𐓙𐓚𐓛𐓜𐓝𐓞𐓟𐓠𐓡𐓢𐓣𐓤𐓥𐓦𐓧𐓨𐓩𐓪𐓫𐓬𐓭𐓮𐓯𐓰𐓱𐓲𐓳𐓴𐓵𐓶𐓷𐓸𐓹𐓺𐓻
    10570:𐖗𐖘𐖙𐖚𐖛𐖜𐖝𐖞𐖟𐖠𐖡
    1057C:𐖣𐖤𐖥𐖦𐖧𐖨𐖩𐖪𐖫𐖬𐖭𐖮𐖯𐖰𐖱
    1058C:𐖳𐖴𐖵𐖶𐖷𐖸𐖹
    10594:𐖻𐖼
    10781:ːˑæʙɓ
    10787:ʣꭦʥʤɖɗᶑɘɞʩɤɢɠʛħʜɧʄʪʫɬ𝼄ꞎɮ𝼅ʎ𝼆øɶɷqɺ𝼈ɽɾʀʨʦꭧʧ
    107AF:ʈⱱ
    107B2:ʏʡʢʘǀǁǂ𝼊𝼞
    10C80:𐳀𐳁𐳂𐳃𐳄𐳅𐳆𐳇𐳈𐳉𐳊𐳋𐳌𐳍𐳎𐳏𐳐𐳑𐳒𐳓𐳔𐳕𐳖𐳗𐳘𐳙𐳚𐳛𐳜𐳝𐳞𐳟𐳠𐳡𐳢𐳣𐳤𐳥𐳦𐳧
    10CA8:𐳨𐳩𐳪𐳫𐳬𐳭𐳮𐳯𐳰𐳱𐳲
    10D50:𐵰𐵱𐵲𐵳𐵴𐵵𐵶𐵷𐵸𐵹𐵺𐵻𐵼𐵽𐵾𐵿𐶀𐶁𐶂𐶃𐶄𐶅
    118A0:𑣀𑣁𑣂𑣃𑣄𑣅𑣆𑣇𑣈𑣉𑣊𑣋𑣌𑣍𑣎𑣏𑣐𑣑𑣒𑣓𑣔𑣕𑣖𑣗𑣘𑣙𑣚𑣛𑣜𑣝𑣞𑣟
    16E40:𖹠𖹡𖹢𖹣𖹤𖹥𖹦𖹧𖹨𖹩𖹪𖹫𖹬𖹭𖹮𖹯𖹰𖹱𖹲𖹳𖹴𖹵𖹶𖹷𖹸𖹹𖹺𖹻𖹼𖹽𖹾𖹿
    16EA0:𖺻𖺼𖺽𖺾𖺿𖻀𖻁𖻂𖻃𖻄𖻅𖻆𖻇𖻈𖻉𖻊𖻋𖻌𖻍𖻎𖻏𖻐𖻑𖻒𖻓
    1CCD6:abcdefghijklmnopqrstuvwxyz0123456789
    1D15E=𝅗𝅥|𝅘𝅥|𝅘𝅥𝅮|𝅘𝅥𝅯|𝅘𝅥𝅰|𝅘𝅥𝅱|𝅘𝅥𝅲
    1D1BB=𝆹𝅥|𝆺𝅥|𝆹𝅥𝅮|𝆺𝅥𝅮|𝆹𝅥𝅯|𝆺𝅥𝅯
    1D400:abcdefghijklmnopqrstuvwxyzabcdefghijklmn
    1D428:opqrstuvwxyzabcdefghijklmnopqrstuvwxyzab
    1D450:cdefg
    1D456:ijklmnopqrstuvwxyzabcdefghijklmnopqrstuv
    1D47E:wxyzabcdefghijklmnopqrstuvwxyza
    1D49E:cd
    1D4A2:g
    1D4A5:jk
    1D4A9:nopq
    1D4AE:stuvwxyzabcd
    1D4BB:f
    1D4BD:hijklmn
    1D4C5:pqrstuvwxyzabcdefghijklmnopqrstuvwxyzabc
    1D4ED:defghijklmnopqrstuvwxyzab
    1D507:defg
    1D50D:jklmnopq
    1D516:stuvwxy
    1D51E:abcdefghijklmnopqrstuvwxyzab
    1D53B:defg
    1D540:ijklm
    1D546:o
    1D54A:stuvwxy
    1D552:abcdefghijklmnopqrstuvwxyzabcdefghijklmn
    1D57A:opqrstuvwxyzabcdefghijklmnopqrstuvwxyzab
    1D5A2:cdefghijklmnopqrstuvwxyzabcdefghijklmnop
    1D5CA:qrstuvwxyzabcdefghijklmnopqrstuvwxyzabcd
    1D5F2:efghijklmnopqrstuvwxyzabcdefghijklmnopqr
    1D61A:stuvwxyzabcdefghijklmnopqrstuvwxyzabcdef
    1D642:ghijklmnopqrstuvwxyzabcdefghijklmnopqrst
    1D66A:uvwxyzabcdefghijklmnopqrstuvwxyzabcdefgh
    1D692:ijklmnopqrstuvwxyzıȷ
    1D6A8:αβγδεζηθικλμνξοπρθστυφχψω∇αβγδεζηθικλμνξ
    1D6D0:οπρσστυφχψω∂εθκφρπαβγδεζηθικλμνξοπρθστυφ
    1D6F8:χψω∇αβγδεζηθικλμνξοπρσστυφχψω∂εθκφρπαβγδ
    1D720:εζηθικλμνξοπρθστυφχψω∇αβγδεζηθικλμνξοπρσ
    1D748:στυφχψω∂εθκφρπαβγδεζηθικλμνξοπρθστυφχψω∇
    1D770:αβγδεζηθικλμνξοπρσστυφχψω∂εθκφρπαβγδεζηθ
    1D798:ικλμνξοπρθστυφχψω∇αβγδεζηθικλμνξοπρσστυφ
    1D7C0:χψω∂εθκφρπϝϝ
    1D7CE:0123456789012345678901234567890123456789
    1D7F6:0123456789
    1E030:абвгдежзиклмопрстуфхцчшыэюꚉәіјөүӏабвгдеж
    1E058:зиклопсуфхцчшъыґіѕџҫꙑұ
    1E900:𞤢𞤣𞤤𞤥𞤦𞤧𞤨𞤩𞤪𞤫𞤬𞤭𞤮𞤯𞤰𞤱𞤲𞤳𞤴𞤵𞤶𞤷𞤸𞤹𞤺𞤻𞤼𞤽𞤾𞤿𞥀𞥁𞥂𞥃
    1EE00:ابجد
    1EE05:وزحطيكلمنسعفصقرشتثخذضظغٮںڡٯ
    1EE21:بج
    1EE24:ه
    1EE27:ح
    1EE29:يكلمنسعفصق
    1EE34:شتثخ
    1EE39:ض
    1EE3B:غ
    1EE42:ج
    1EE47:ح
    1EE49:ي
    1EE4B:ل
    1EE4D:نسع
    1EE51:صق
    1EE54:ش
    1EE57:خ
    1EE59:ض
    1EE5B:غ
    1EE5D:ں
    1EE5F:ٯ
    1EE61:بج
    1EE64:ه
    1EE67:حطيك
    1EE6C:منسعفصق
    1EE74:شتثخ
    1EE79:ضظغٮ
    1EE7E:ڡ
    1EE80:ابجدهوزحطي
    1EE8B:لمنسعفصقرشتثخذضظغ
    1EEA1:بجد
    1EEA5:وزحطي
    1EEAB:لمنسعفصقرشتثخذضظغ
    1F101=0,|1,|2,|3,|4,|5,|6,|7,|8,|9,
    1F110=(a)|(b)|(c)|(d)|(e)|(f)|(g)|(h)|(i)|(j)|(k)|(l)
    1F11C=(m)|(n)|(o)|(p)|(q)|(r)|(s)|(t)|(u)|(v)|(w)|(x)
    1F128=(y)|(z)|〔s〕
    1F12B:cr
    1F12D=cd|wz
    1F130:abcdefghijklmnopqrstuvwxyz
    1F14A=hv|mv|sd|ss|ppv|wc
    1F16A=mc|md|mr
    1F190=dj
    1F200=ほか|ココ
    1F202:サ
    1F210:手字双デ二多解天交映無料前後再新初終生販声吹演投捕一三遊左中右指走打禁空合満有月
    1F238:申割営配
    1F240=〔本〕|〔三〕|〔二〕|〔安〕|〔点〕|〔打〕|〔盗〕|〔勝〕|〔敗〕
    1F250:得可
    1FBF0:0123456789
    2F800:丽丸乁𠄢你侮侻倂偺備僧像㒞𠘺免兔兤具𠔜㒹內再𠕋冗冤仌冬况𩇟凵刃㓟刻剆割剷㔕勇勉勤
    2F828:勺包匆北卉卑博即卽卿卿卿𠨬灰及叟𠭣叫叱吆咞吸呈周咢哶唐啓啣善善喙喫喳嗂圖嘆圗噑噴
    2F850:切壮城埴堍型堲報墬𡓤売壷夆多夢奢𡚨𡛪姬娛娧姘婦㛮㛼嬈嬾嬾𡧈寃寘寧寳𡬘寿将当尢㞁屠
    2F878:屮峀岍𡷤嵃𡷦嵮嵫嵼巡巢㠯巽帨帽幩㡢𢆃㡼庰庳庶廊𪎒廾𢌱𢌱舁弢弢㣇𣊸𦇚形彫㣣徚忍志忹
    2F8A0:悁㤺㤜悔𢛔惇慈慌慎慌慺憎憲憤憯懞懲懶成戛扝抱拔捐𢬌挽拼捨掃揤𢯱搢揅掩㨮摩摾撝摷㩬
    2F8C8:敏敬𣀊旣書晉㬙暑㬈㫤冒冕最暜肭䏙朗望朡杞杓𣏃㭉柺枅桒梅𣑭梎栟椔㮝楂榣槪檨𣚣櫛㰘次
    2F8F0:𣢧歔㱎歲殟殺殻𣪍𡴋𣫺汎𣲼沿泍汧洖派海流浩浸涅𣴞洴港湮㴳滋滇𣻑淹潮𣽞𣾎濆瀹瀞瀛㶖灊
    2F918:災灷炭𠔥煅𤉣熜𤎫爨爵牐𤘈犀犕𤜵𤠔獺王㺬玥㺸㺸瑇瑜瑱璅瓊㼛甤𤰶甾𤲒異𢆟瘐𤾡𤾸𥁄㿼䀈
    2F940:直𥃳𥃲𥄙𥄳眞真真睊䀹瞋䁆䂖𥐝硎碌磌䃣𥘦祖𥚚𥛅福秫䄯穀穊穏𥥼𥪧𥪧竮䈂𥮫篆築䈧𥲀糒䊠
    2F968:糨糣紀𥾆絣䌁緇縂繅䌴𦈨𦉇䍙𦋙罺𦌾羕翺者𦓚𦔣聠𦖨聰𣍟䏕育脃䐋脾媵𦞧𦞵𣎓𣎜舁舄辞䑫芑
    2F990:芋芝劳花芳芽苦𦬼若茝荣莭茣莽菧著荓菊菌菜𦰶𦵫𦳕䔫蓱蓳蔖𧏊蕤𦼬䕝䕡𦾱𧃒䕫虐虜虧虩蚩
    2F9B8:蚈蜎蛢蝹蜨蝫螆䗗蟡蠁䗹衠衣𧙧裗裞䘵裺㒻𧢮𧥦䚾䛇誠諭變豕𧲨貫賁贛起𧼯𠠄跋趼跰𠣞軔輸
    2F9E0:𨗒𨗭邔郱鄑𨜮鄛鈸鋗鋘鉼鏹鐕𨯺開䦕閷𨵷䧦雃嶲霣𩅅𩈚䩮䩶韠𩐊䪲𩒖頋頋頩𩖶飢䬳餩馧駂駾
    2FA08:䯎𩬰鬒鱀鳽䳎䳭鵧𪃎䳸𪄅𪈎𪊑麻䵖黹黾鼅鼏鼖鼻𪘀"

structure Replacement where
  code : Nat
  text : List Char
  deriving Repr, DecidableEq, Inhabited

def replacementsFrom (code : Nat) : List (List Char) → List Replacement
  | [] => []
  | text :: rest =>
    ⟨code, text.map fun c => if c = '␣' then ' ' else c⟩ :: replacementsFrom (code + 1) rest

def replacements : List Replacement :=
  (words replacementText).flatMap fun w =>
    let first := code (w.takeWhile fun c => c != ':' && c != '=')
    match w.dropWhile fun c => c != ':' && c != '=' with
    | ':' :: singles => replacementsFrom first (singles.map fun c => [c])
    | _ :: texts => replacementsFrom first (pieces (· == '|') texts)
    | [] => []

def isDisallowed (c : Char) : Bool := inRanges disallowedRanges c

/-- The spelling of a character, unless it is not allowed. -/
def spelling? (c : Char) : Option (List Char) :=
  if inRanges ignoredRanges c then some []
  else if isDisallowed c then none
  else match replacements.find? (·.code == c.toNat) with
    | some r => some r.text
    | none => some [c]

def isPlainSpelled (c : Char) : Bool := spelling? c == some [c]

end Depot.Text
