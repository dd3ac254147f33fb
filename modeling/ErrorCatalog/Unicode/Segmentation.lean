import ErrorCatalog.Unicode.Property

/-!
# Segmentation

What characters count for where a text is cut into graphemes, words and
sentences. Each kind of cut divides the characters into classes, which are
written like binary properties; the characters of no class have no name here.
-/

namespace ErrorCatalog

namespace Segmentation

/-- The classes of characters for the cut between graphemes. -/
def graphemeClasses : List Property :=
  [⟨["cr"],
    [],
    "D",
    ""⟩,
   ⟨["control", "cn"],
    [.cc],
    "AD 61C 180E 200B 200E..200F 2028..202E 2060..206F FEFF FFF0..FFFB 13430..1343F 1BCA0..1BCA3
    1D173..1D17A E0000..E001F E0080..E00FF E01F0..E0FFF",
    "A D"⟩,
   ⟨["extend", "ex"],
    [.mn, .me],
    "9BE 9D7 B3E B57 BBE BD7 CC0 CC2 CC7..CC8 CCA..CCB CD5..CD6 D3E D57 DCF DDF 1715 1734 1B35
    1B3B 1B3D 1B43..1B44 1BAA 1BF2..1BF3 200C 302E..302F A953 A9C0 FF9E..FF9F 111C0 11235 1133E
    1134D 11357 113B8 113C2 113C5 113C7..113C9 113CF 114B0 114BD 115AF 116B6 11930 1193D 11F41
    16FF0..16FF1 1D165..1D166 1D16D..1D172 1F3FB..1F3FF E0020..E007F",
    ""⟩,
   ⟨["l"],
    [],
    "1100..115F A960..A97C",
    ""⟩,
   ⟨["lf"],
    [],
    "A",
    ""⟩,
   ⟨["lv"],
    [],
    "AC00..D788/1C",
    ""⟩,
   ⟨["lvt"],
    [],
    "AC01..AC1B AC1D..AC37 AC39..AC53 AC55..AC6F AC71..AC8B AC8D..ACA7 ACA9..ACC3 ACC5..ACDF
    ACE1..ACFB ACFD..AD17 AD19..AD33 AD35..AD4F AD51..AD6B AD6D..AD87 AD89..ADA3 ADA5..ADBF
    ADC1..ADDB ADDD..ADF7 ADF9..AE13 AE15..AE2F AE31..AE4B AE4D..AE67 AE69..AE83 AE85..AE9F
    AEA1..AEBB AEBD..AED7 AED9..AEF3 AEF5..AF0F AF11..AF2B AF2D..AF47 AF49..AF63 AF65..AF7F
    AF81..AF9B AF9D..AFB7 AFB9..AFD3 AFD5..AFEF AFF1..B00B B00D..B027 B029..B043 B045..B05F
    B061..B07B B07D..B097 B099..B0B3 B0B5..B0CF B0D1..B0EB B0ED..B107 B109..B123 B125..B13F
    B141..B15B B15D..B177 B179..B193 B195..B1AF B1B1..B1CB B1CD..B1E7 B1E9..B203 B205..B21F
    B221..B23B B23D..B257 B259..B273 B275..B28F B291..B2AB B2AD..B2C7 B2C9..B2E3 B2E5..B2FF
    B301..B31B B31D..B337 B339..B353 B355..B36F B371..B38B B38D..B3A7 B3A9..B3C3 B3C5..B3DF
    B3E1..B3FB B3FD..B417 B419..B433 B435..B44F B451..B46B B46D..B487 B489..B4A3 B4A5..B4BF
    B4C1..B4DB B4DD..B4F7 B4F9..B513 B515..B52F B531..B54B B54D..B567 B569..B583 B585..B59F
    B5A1..B5BB B5BD..B5D7 B5D9..B5F3 B5F5..B60F B611..B62B B62D..B647 B649..B663 B665..B67F
    B681..B69B B69D..B6B7 B6B9..B6D3 B6D5..B6EF B6F1..B70B B70D..B727 B729..B743 B745..B75F
    B761..B77B B77D..B797 B799..B7B3 B7B5..B7CF B7D1..B7EB B7ED..B807 B809..B823 B825..B83F
    B841..B85B B85D..B877 B879..B893 B895..B8AF B8B1..B8CB B8CD..B8E7 B8E9..B903 B905..B91F
    B921..B93B B93D..B957 B959..B973 B975..B98F B991..B9AB B9AD..B9C7 B9C9..B9E3 B9E5..B9FF
    BA01..BA1B BA1D..BA37 BA39..BA53 BA55..BA6F BA71..BA8B BA8D..BAA7 BAA9..BAC3 BAC5..BADF
    BAE1..BAFB BAFD..BB17 BB19..BB33 BB35..BB4F BB51..BB6B BB6D..BB87 BB89..BBA3 BBA5..BBBF
    BBC1..BBDB BBDD..BBF7 BBF9..BC13 BC15..BC2F BC31..BC4B BC4D..BC67 BC69..BC83 BC85..BC9F
    BCA1..BCBB BCBD..BCD7 BCD9..BCF3 BCF5..BD0F BD11..BD2B BD2D..BD47 BD49..BD63 BD65..BD7F
    BD81..BD9B BD9D..BDB7 BDB9..BDD3 BDD5..BDEF BDF1..BE0B BE0D..BE27 BE29..BE43 BE45..BE5F
    BE61..BE7B BE7D..BE97 BE99..BEB3 BEB5..BECF BED1..BEEB BEED..BF07 BF09..BF23 BF25..BF3F
    BF41..BF5B BF5D..BF77 BF79..BF93 BF95..BFAF BFB1..BFCB BFCD..BFE7 BFE9..C003 C005..C01F
    C021..C03B C03D..C057 C059..C073 C075..C08F C091..C0AB C0AD..C0C7 C0C9..C0E3 C0E5..C0FF
    C101..C11B C11D..C137 C139..C153 C155..C16F C171..C18B C18D..C1A7 C1A9..C1C3 C1C5..C1DF
    C1E1..C1FB C1FD..C217 C219..C233 C235..C24F C251..C26B C26D..C287 C289..C2A3 C2A5..C2BF
    C2C1..C2DB C2DD..C2F7 C2F9..C313 C315..C32F C331..C34B C34D..C367 C369..C383 C385..C39F
    C3A1..C3BB C3BD..C3D7 C3D9..C3F3 C3F5..C40F C411..C42B C42D..C447 C449..C463 C465..C47F
    C481..C49B C49D..C4B7 C4B9..C4D3 C4D5..C4EF C4F1..C50B C50D..C527 C529..C543 C545..C55F
    C561..C57B C57D..C597 C599..C5B3 C5B5..C5CF C5D1..C5EB C5ED..C607 C609..C623 C625..C63F
    C641..C65B C65D..C677 C679..C693 C695..C6AF C6B1..C6CB C6CD..C6E7 C6E9..C703 C705..C71F
    C721..C73B C73D..C757 C759..C773 C775..C78F C791..C7AB C7AD..C7C7 C7C9..C7E3 C7E5..C7FF
    C801..C81B C81D..C837 C839..C853 C855..C86F C871..C88B C88D..C8A7 C8A9..C8C3 C8C5..C8DF
    C8E1..C8FB C8FD..C917 C919..C933 C935..C94F C951..C96B C96D..C987 C989..C9A3 C9A5..C9BF
    C9C1..C9DB C9DD..C9F7 C9F9..CA13 CA15..CA2F CA31..CA4B CA4D..CA67 CA69..CA83 CA85..CA9F
    CAA1..CABB CABD..CAD7 CAD9..CAF3 CAF5..CB0F CB11..CB2B CB2D..CB47 CB49..CB63 CB65..CB7F
    CB81..CB9B CB9D..CBB7 CBB9..CBD3 CBD5..CBEF CBF1..CC0B CC0D..CC27 CC29..CC43 CC45..CC5F
    CC61..CC7B CC7D..CC97 CC99..CCB3 CCB5..CCCF CCD1..CCEB CCED..CD07 CD09..CD23 CD25..CD3F
    CD41..CD5B CD5D..CD77 CD79..CD93 CD95..CDAF CDB1..CDCB CDCD..CDE7 CDE9..CE03 CE05..CE1F
    CE21..CE3B CE3D..CE57 CE59..CE73 CE75..CE8F CE91..CEAB CEAD..CEC7 CEC9..CEE3 CEE5..CEFF
    CF01..CF1B CF1D..CF37 CF39..CF53 CF55..CF6F CF71..CF8B CF8D..CFA7 CFA9..CFC3 CFC5..CFDF
    CFE1..CFFB CFFD..D017 D019..D033 D035..D04F D051..D06B D06D..D087 D089..D0A3 D0A5..D0BF
    D0C1..D0DB D0DD..D0F7 D0F9..D113 D115..D12F D131..D14B D14D..D167 D169..D183 D185..D19F
    D1A1..D1BB D1BD..D1D7 D1D9..D1F3 D1F5..D20F D211..D22B D22D..D247 D249..D263 D265..D27F
    D281..D29B D29D..D2B7 D2B9..D2D3 D2D5..D2EF D2F1..D30B D30D..D327 D329..D343 D345..D35F
    D361..D37B D37D..D397 D399..D3B3 D3B5..D3CF D3D1..D3EB D3ED..D407 D409..D423 D425..D43F
    D441..D45B D45D..D477 D479..D493 D495..D4AF D4B1..D4CB D4CD..D4E7 D4E9..D503 D505..D51F
    D521..D53B D53D..D557 D559..D573 D575..D58F D591..D5AB D5AD..D5C7 D5C9..D5E3 D5E5..D5FF
    D601..D61B D61D..D637 D639..D653 D655..D66F D671..D68B D68D..D6A7 D6A9..D6C3 D6C5..D6DF
    D6E1..D6FB D6FD..D717 D719..D733 D735..D74F D751..D76B D76D..D787 D789..D7A3",
    ""⟩,
   ⟨["prepend", "pp"],
    [],
    "600..605 6DD 70F 890..891 8E2 D4E 110BD 110CD 111C2..111C3 113D1 1193F 11941 11A3A
    11A84..11A89 11D46 11F02",
    ""⟩,
   ⟨["regionalindicator", "ri"],
    [],
    "1F1E6..1F1FF",
    ""⟩,
   ⟨["spacingmark", "sm"],
    [.mc],
    "E33 EB3",
    "9BE 9D7 B3E B57 BBE BD7 CC0 CC2 CC7..CC8 CCA..CCB CD5..CD6 D3E D57 DCF DDF 102B..102C 1038
    1062..1064 1067..106D 1083 1087..108C 108F 109A..109C 1715 1734 1A61 1A63..1A64 1B35 1B3B
    1B3D 1B43..1B44 1BAA 1BF2..1BF3 302E..302F A953 A9C0 AA7B AA7D 111C0 11235 1133E 1134D 11357
    113B8 113C2 113C5 113C7..113C9 113CF 114B0 114BD 115AF 116B6 11720..11721 11930 1193D 11F41
    16FF0..16FF1 1D165..1D166 1D16D..1D172"⟩,
   ⟨["t"],
    [],
    "11A8..11FF D7CB..D7FB",
    ""⟩,
   ⟨["v"],
    [],
    "1160..11A7 D7B0..D7C6 16D63 16D67..16D6A",
    ""⟩,
   ⟨["zwj"],
    [],
    "200D",
    ""⟩]

/-- The classes of characters for the cut between words. -/
def wordClasses : List Property :=
  [⟨["aletter", "le"],
    [],
    "41..5A 61..7A AA B5 BA C0..D6 D8..F6 F8..2D7 2DE..2FF 370..374 376..377 37A..37D 37F 386
    388..38A 38C 38E..3A1 3A3..3F5 3F7..481 48A..52F 531..556 559..55C 55E 560..588 58A 5F3
    620..64A 66E..66F 671..6D3 6D5 6E5..6E6 6EE..6EF 6FA..6FC 6FF 70F..710 712..72F 74D..7A5 7B1
    7CA..7EA 7F4..7F5 7FA 800..815 81A 824 828 840..858 860..86A 870..887 889..88E 8A0..8C9
    904..939 93D 950 958..961 971..980 985..98C 98F..990 993..9A8 9AA..9B0 9B2 9B6..9B9 9BD 9CE
    9DC..9DD 9DF..9E1 9F0..9F1 9FC A05..A0A A0F..A10 A13..A28 A2A..A30 A32..A33 A35..A36
    A38..A39 A59..A5C A5E A72..A74 A85..A8D A8F..A91 A93..AA8 AAA..AB0 AB2..AB3 AB5..AB9 ABD AD0
    AE0..AE1 AF9 B05..B0C B0F..B10 B13..B28 B2A..B30 B32..B33 B35..B39 B3D B5C..B5D B5F..B61 B71
    B83 B85..B8A B8E..B90 B92..B95 B99..B9A B9C B9E..B9F BA3..BA4 BA8..BAA BAE..BB9 BD0 C05..C0C
    C0E..C10 C12..C28 C2A..C39 C3D C58..C5A C5D C60..C61 C80 C85..C8C C8E..C90 C92..CA8 CAA..CB3
    CB5..CB9 CBD CDD..CDE CE0..CE1 CF1..CF2 D04..D0C D0E..D10 D12..D3A D3D D4E D54..D56 D5F..D61
    D7A..D7F D85..D96 D9A..DB1 DB3..DBB DBD DC0..DC6 F00 F40..F47 F49..F6C F88..F8C 10A0..10C5
    10C7 10CD 10D0..10FA 10FC..1248 124A..124D 1250..1256 1258 125A..125D 1260..1288 128A..128D
    1290..12B0 12B2..12B5 12B8..12BE 12C0 12C2..12C5 12C8..12D6 12D8..1310 1312..1315 1318..135A
    1380..138F 13A0..13F5 13F8..13FD 1401..166C 166F..167F 1681..169A 16A0..16EA 16EE..16F8
    1700..1711 171F..1731 1740..1751 1760..176C 176E..1770 1820..1878 1880..1884 1887..18A8 18AA
    18B0..18F5 1900..191E 1A00..1A16 1B05..1B33 1B45..1B4C 1B83..1BA0 1BAE..1BAF 1BBA..1BE5
    1C00..1C23 1C4D..1C4F 1C5A..1C7D 1C80..1C8A 1C90..1CBA 1CBD..1CBF 1CE9..1CEC 1CEE..1CF3
    1CF5..1CF6 1CFA 1D00..1DBF 1E00..1F15 1F18..1F1D 1F20..1F45 1F48..1F4D 1F50..1F57
    1F59..1F5D/2 1F5F..1F7D 1F80..1FB4 1FB6..1FBC 1FBE 1FC2..1FC4 1FC6..1FCC 1FD0..1FD3
    1FD6..1FDB 1FE0..1FEC 1FF2..1FF4 1FF6..1FFC 2071 207F 2090..209C 2102 2107 210A..2113 2115
    2119..211D 2124..2128/2 212A..212D 212F..2139 213C..213F 2145..2149 214E 2160..2188
    24B6..24E9 2C00..2CE4 2CEB..2CEE 2CF2..2CF3 2D00..2D25 2D27 2D2D 2D30..2D67 2D6F 2D80..2D96
    2DA0..2DA6 2DA8..2DAE 2DB0..2DB6 2DB8..2DBE 2DC0..2DC6 2DC8..2DCE 2DD0..2DD6 2DD8..2DDE 2E2F
    3005 303B..303C 3105..312F 3131..318E 31A0..31BF A000..A48C A4D0..A4FD A500..A60C A610..A61F
    A62A..A62B A640..A66E A67F..A69D A6A0..A6EF A708..A7CD A7D0..A7D1 A7D3 A7D5..A7DC A7F2..A801
    A803..A805 A807..A80A A80C..A822 A840..A873 A882..A8B3 A8F2..A8F7 A8FB A8FD..A8FE A90A..A925
    A930..A946 A960..A97C A984..A9B2 A9CF AA00..AA28 AA40..AA42 AA44..AA4B AAE0..AAEA AAF2..AAF4
    AB01..AB06 AB09..AB0E AB11..AB16 AB20..AB26 AB28..AB2E AB30..AB69 AB70..ABE2 AC00..D7A3
    D7B0..D7C6 D7CB..D7FB FB00..FB06 FB13..FB17 FB50..FBB1 FBD3..FD3D FD50..FD8F FD92..FDC7
    FDF0..FDFB FE70..FE74 FE76..FEFC FF21..FF3A FF41..FF5A FFA0..FFBE FFC2..FFC7 FFCA..FFCF
    FFD2..FFD7 FFDA..FFDC 10000..1000B 1000D..10026 10028..1003A 1003C..1003D 1003F..1004D
    10050..1005D 10080..100FA 10140..10174 10280..1029C 102A0..102D0 10300..1031F 1032D..1034A
    10350..10375 10380..1039D 103A0..103C3 103C8..103CF 103D1..103D5 10400..1049D 104B0..104D3
    104D8..104FB 10500..10527 10530..10563 10570..1057A 1057C..1058A 1058C..10592 10594..10595
    10597..105A1 105A3..105B1 105B3..105B9 105BB..105BC 105C0..105F3 10600..10736 10740..10755
    10760..10767 10780..10785 10787..107B0 107B2..107BA 10800..10805 10808 1080A..10835
    10837..10838 1083C 1083F..10855 10860..10876 10880..1089E 108E0..108F2 108F4..108F5
    10900..10915 10920..10939 10980..109B7 109BE..109BF 10A00 10A10..10A13 10A15..10A17
    10A19..10A35 10A60..10A7C 10A80..10A9C 10AC0..10AC7 10AC9..10AE4 10B00..10B35 10B40..10B55
    10B60..10B72 10B80..10B91 10C00..10C48 10C80..10CB2 10CC0..10CF2 10D00..10D23 10D4A..10D65
    10D6F..10D85 10E80..10EA9 10EB0..10EB1 10EC2..10EC4 10F00..10F1C 10F27 10F30..10F45
    10F70..10F81 10FB0..10FC4 10FE0..10FF6 11003..11037 11071..11072 11075 11083..110AF
    110D0..110E8 11103..11126 11144 11147 11150..11172 11176 11183..111B2 111C1..111C4 111DA
    111DC 11200..11211 11213..1122B 1123F..11240 11280..11286 11288 1128A..1128D 1128F..1129D
    1129F..112A8 112B0..112DE 11305..1130C 1130F..11310 11313..11328 1132A..11330 11332..11333
    11335..11339 1133D 11350 1135D..11361 11380..11389 1138B 1138E 11390..113B5 113B7 113D1
    113D3 11400..11434 11447..1144A 1145F..11461 11480..114AF 114C4..114C5 114C7 11580..115AE
    115D8..115DB 11600..1162F 11644 11680..116AA 116B8 11800..1182B 118A0..118DF 118FF..11906
    11909 1190C..11913 11915..11916 11918..1192F 1193F 11941 119A0..119A7 119AA..119D0 119E1
    119E3 11A00 11A0B..11A32 11A3A 11A50 11A5C..11A89 11A9D 11AB0..11AF8 11BC0..11BE0
    11C00..11C08 11C0A..11C2E 11C40 11C72..11C8F 11D00..11D06 11D08..11D09 11D0B..11D30 11D46
    11D60..11D65 11D67..11D68 11D6A..11D89 11D98 11EE0..11EF2 11F02 11F04..11F10 11F12..11F33
    11FB0 12000..12399 12400..1246E 12480..12543 12F90..12FF0 13000..1342F 13441..13446
    13460..143FA 14400..14646 16100..1611D 16800..16A38 16A40..16A5E 16A70..16ABE 16AD0..16AED
    16B00..16B2F 16B40..16B43 16B63..16B77 16B7D..16B8F 16D40..16D6C 16E40..16E7F 16F00..16F4A
    16F50 16F93..16F9F 16FE0..16FE1 16FE3 1BC00..1BC6A 1BC70..1BC7C 1BC80..1BC88 1BC90..1BC99
    1D400..1D454 1D456..1D49C 1D49E..1D49F 1D4A2 1D4A5..1D4A6 1D4A9..1D4AC 1D4AE..1D4B9 1D4BB
    1D4BD..1D4C3 1D4C5..1D505 1D507..1D50A 1D50D..1D514 1D516..1D51C 1D51E..1D539 1D53B..1D53E
    1D540..1D544 1D546 1D54A..1D550 1D552..1D6A5 1D6A8..1D6C0 1D6C2..1D6DA 1D6DC..1D6FA
    1D6FC..1D714 1D716..1D734 1D736..1D74E 1D750..1D76E 1D770..1D788 1D78A..1D7A8 1D7AA..1D7C2
    1D7C4..1D7CB 1DF00..1DF1E 1DF25..1DF2A 1E030..1E06D 1E100..1E12C 1E137..1E13D 1E14E
    1E290..1E2AD 1E2C0..1E2EB 1E4D0..1E4EB 1E5D0..1E5ED 1E5F0 1E7E0..1E7E6 1E7E8..1E7EB
    1E7ED..1E7EE 1E7F0..1E7FE 1E800..1E8C4 1E900..1E943 1E94B 1EE00..1EE03 1EE05..1EE1F
    1EE21..1EE22 1EE24 1EE27 1EE29..1EE32 1EE34..1EE37 1EE39 1EE3B 1EE42 1EE47..1EE4B/2
    1EE4D..1EE4F 1EE51..1EE52 1EE54 1EE57..1EE5F/2 1EE61..1EE62 1EE64 1EE67..1EE6A 1EE6C..1EE72
    1EE74..1EE77 1EE79..1EE7C 1EE7E 1EE80..1EE89 1EE8B..1EE9B 1EEA1..1EEA3 1EEA5..1EEA9
    1EEAB..1EEBB 1F130..1F149 1F150..1F169 1F170..1F189",
    ""⟩,
   ⟨["cr"],
    [],
    "D",
    ""⟩,
   ⟨["doublequote", "dq"],
    [],
    "22",
    ""⟩,
   ⟨["extend"],
    [.mn, .mc, .me],
    "200C FF9E..FF9F 1F3FB..1F3FF E0020..E007F",
    ""⟩,
   ⟨["extendnumlet", "ex"],
    [.pc],
    "202F",
    ""⟩,
   ⟨["format", "fo"],
    [],
    "AD 61C 180E 200E..200F 202A..202E 2060..2064 2066..206F FEFF FFF9..FFFB 13430..1343F
    1BCA0..1BCA3 1D173..1D17A E0001",
    ""⟩,
   ⟨["hebrewletter", "hl"],
    [],
    "5D0..5EA 5EF..5F2 FB1D FB1F..FB28 FB2A..FB36 FB38..FB3C FB3E FB40..FB41 FB43..FB44
    FB46..FB4F",
    ""⟩,
   ⟨["katakana", "ka"],
    [],
    "3031..3035 309B..309C 30A0..30FA 30FC..30FF 31F0..31FF 32D0..32FE 3300..3357 FF66..FF9D
    1AFF0..1AFF3 1AFF5..1AFFB 1AFFD..1AFFE 1B000 1B120..1B122 1B155 1B164..1B167",
    ""⟩,
   ⟨["lf"],
    [],
    "A",
    ""⟩,
   ⟨["midletter", "ml"],
    [],
    "3A B7 387 55F 5F4 2027 FE13 FE55 FF1A",
    ""⟩,
   ⟨["midnum", "mn"],
    [],
    "2C 3B 37E 589 60C..60D 66C 7F8 2044 FE50 FE54 FF0C FF1B",
    ""⟩,
   ⟨["midnumlet", "mb"],
    [],
    "2E 2018..2019 2024 FE52 FF07 FF0E",
    ""⟩,
   ⟨["newline", "nl"],
    [.zl],
    "B..C 85 2029",
    ""⟩,
   ⟨["numeric", "nu"],
    [.nd],
    "600..605 66B 6DD 890..891 8E2 19DA 110BD 110CD",
    ""⟩,
   ⟨["regionalindicator", "ri"],
    [],
    "1F1E6..1F1FF",
    ""⟩,
   ⟨["singlequote", "sq"],
    [],
    "27",
    ""⟩,
   ⟨["wsegspace"],
    [.zs],
    "",
    "A0 2007 202F"⟩,
   ⟨["zwj"],
    [],
    "200D",
    ""⟩]

/-- The classes of characters for the cut between sentences. -/
def sentenceClasses : List Property :=
  [⟨["aterm", "at"],
    [],
    "2E 2024 FE52 FF0E",
    ""⟩,
   ⟨["cr"],
    [],
    "D",
    ""⟩,
   ⟨["close", "cl"],
    [.ps, .pe, .pi, .pf],
    "22 27 275B..2760 2E00..2E01 2E06..2E08 2E0B 1F676..1F678",
    ""⟩,
   ⟨["extend", "ex"],
    [.mn, .mc, .me],
    "200C..200D FF9E..FF9F E0020..E007F",
    ""⟩,
   ⟨["format", "fo"],
    [],
    "AD 61C 70F 180E 200B 200E..200F 202A..202E 2060..2064 2066..206F FEFF FFF9..FFFB
    13430..1343F 1BCA0..1BCA3 1D173..1D17A E0001",
    ""⟩,
   ⟨["lf"],
    [],
    "A",
    ""⟩,
   ⟨["lower", "lo"],
    [.ll],
    "AA BA 2B0..2B8 2C0..2C1 2E0..2E4 37A 10FC 1D2C..1D6A 1D78 1D9B..1DBF 2071 207F 2090..209C
    2170..217F 24D0..24E9 2C7C..2C7D A69C..A69D A770 A7F2..A7F4 A7F8..A7F9 AB5C..AB5F AB69 10780
    10783..10785 10787..107B0 107B2..107BA 1E030..1E06D",
    "10D0..10FA 10FD..10FF"⟩,
   ⟨["numeric", "nu"],
    [.nd],
    "600..605 66B..66C 6DD 890..891 8E2 19DA 110BD 110CD",
    ""⟩,
   ⟨["oletter", "le"],
    [.lo, .nl],
    "2B9..2BF 2C6..2D1 2EC 2EE 374 559 5F3 640 6E5..6E6 7F4..7F5 7FA 81A 824 828 8C9 971 E46 EC6
    10D0..10FA 10FD..10FF 17D7 1843 1AA7 1C78..1C7D 1C90..1CBA 1CBD..1CBF 2D6F 2E2F 3005
    3031..3035 303B 309D..309E 30FC..30FE A015 A4F8..A4FD A60C A67F A717..A71F A788 A9CF A9E6
    AA70 AADD AAF3..AAF4 FF70 10781..10782 10D4E 10D6F 16B40..16B43 16D40..16D42 16D6B..16D6C
    16F93..16F9F 16FE0..16FE1 16FE3 1AFF0..1AFF3 1AFF5..1AFFB 1AFFD..1AFFE 1E137..1E13D 1E4EB
    1E94B",
    "AA BA 2160..217F"⟩,
   ⟨["scontinue", "sc"],
    [],
    "2C..2D 3A..3B 37E 55D 60C..60D 7F8 1802 1808 2013..2014 3001 FE10..FE11 FE13..FE14
    FE31..FE32 FE50..FE51 FE54..FE55 FE58 FE63 FF0C..FF0D FF1A..FF1B FF64",
    ""⟩,
   ⟨["sterm", "st"],
    [],
    "21 3F 589 61D..61F 6D4 700..702 7F9 837 839 83D..83E 964..965 104A..104B 1362 1367..1368
    166E 1735..1736 17D4..17D5 1803 1809 1944..1945 1AA8..1AAB 1B4E..1B4F 1B5A..1B5B 1B5E..1B5F
    1B7D..1B7F 1C3B..1C3C 1C7E..1C7F 203C..203D 2047..2049 2CF9..2CFB 2E2E 2E3C 2E53..2E54 3002
    A4FF A60E..A60F A6F3 A6F7 A876..A877 A8CE..A8CF A92F A9C8..A9C9 AA5D..AA5F AAF0..AAF1 ABEB
    FE12 FE15..FE16 FE56..FE57 FF01 FF1F FF61 10A56..10A57 10F55..10F59 10F86..10F89
    11047..11048 110BE..110C1 11141..11143 111C5..111C6 111CD 111DE..111DF 11238..11239
    1123B..1123C 112A9 113D4..113D5 1144B..1144C 115C2..115C3 115C9..115D7 11641..11642
    1173C..1173E 11944 11946 11A42..11A43 11A9B..11A9C 11C41..11C42 11EF7..11EF8 11F43..11F44
    16A6E..16A6F 16AF5 16B37..16B38 16B44 16D6E..16D6F 16E98 1BC9F 1DA88",
    ""⟩,
   ⟨["sep", "se"],
    [.zl],
    "85 2029",
    ""⟩,
   ⟨["sp"],
    [.zs],
    "9 B..C",
    ""⟩,
   ⟨["upper", "up"],
    [.lu, .lt],
    "2160..216F 24B6..24CF 1F130..1F149 1F150..1F169 1F170..1F189",
    "1C90..1CBA 1CBD..1CBF"⟩]

end Segmentation

end ErrorCatalog
