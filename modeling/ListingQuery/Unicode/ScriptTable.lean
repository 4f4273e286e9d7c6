import ListingQuery.Unicode.RangeTable

/-!
# Scripts

The characters of each script, by its long name.
-/

namespace ListingQuery.Unicode

/-- The characters of each script. -/
def scriptTables : List (String × RangeTable) := [
  ("Adlam", RangeTable.ofGaps [
    "DwI0Cb4941"]),
  ("Caucasian_Albanian", RangeTable.ofGaps [
    "CBJgBjb0"]),
  ("Ahom", RangeTable.ofGaps [
    "CFY0q2e4m"]),
  ("Arabic", RangeTable.ofGaps [
    "BQ04151d121v19bp1Db1B1CgBfHgB15Ca1sBySgPd2EfB0fDg41E6Dx3uC3588B15BXY031q1110201913101060",
    "401010121110201010101011102316131310191g52141gBk1"]),
  ("Imperial_Aramaic", RangeTable.ofGaps [
    "CCC0l18"]),
  ("Armenian", RangeTable.ofGaps [
    "BJhB52Bh22BzM34"]),
  ("Avestan", RangeTable.ofGaps [
    "CCY0Bl36"]),
  ("Balinese", RangeTable.ofGaps [
    "GY0Cc1Bh"]),
  ("Bamum", RangeTable.ofGaps [
    "BJV0CnBQI8Ro"]),
  ("Bassa_Vah", RangeTable.ofGaps [
    "CwWgt25"]),
  ("Batak", RangeTable.ofGaps [
    "G+0Bj83"]),
  ("Bengali", RangeTable.ofGaps [
    "CM0317212l1610332821238041142o"]),
  ("Bhaiksuki", RangeTable.ofGaps [
    "CHA081Bc1das"]),
  ("Bopomofo", RangeTable.ofGaps [
    "Xa1LQpBaDgv"]),
  ("Brahmi", RangeTable.ofGaps [
    "CEA0Cd4B390"]),
  ("Braille", RangeTable.ofGaps [
    "KA0Hv"]),
  ("Buginese", RangeTable.ofGaps [
    "GQ0r21"]),
  ("Buhid", RangeTable.ofGaps [
    "Fw0j"]),
  ("Chakma", RangeTable.ofGaps [
    "CEI0Bk1h"]),
  ("Canadian_Aboriginal", RangeTable.ofGaps [
    "FA0TvRgC5CANqf"]),
  ("Carian", RangeTable.ofGaps [
    "CAV0Bg"]),
  ("Cham", RangeTable.ofGaps [
    "BKQ0Bm9d2923"]),
  ("Cherokee", RangeTable.ofGaps [
    "Ez0Cl25BFxiCf"]),
  ("Chorasmian", RangeTable.ofGaps [
    "CDzgr"]),
  ("Coptic", RangeTable.ofGaps [
    "-2dKEgDj56"]),
  ("Cypro_Minoan", RangeTable.ofGaps [
    "CLygD2"]),
  ("Cypriot", RangeTable.ofGaps [
    "CCA05201Bb113020"]),
  ("Cyrillic", RangeTable.ofGaps [
    "BA0E42F8FwgaF00Cc0ED7v+C0CvVye1BYQ0BtB10"]),
  ("Devanagari", RangeTable.ofGaps [
    "CI0Cg4e2pBHx0vyQ09"]),
  ("Dives_Akuru", RangeTable.ofGaps [
    "CGI062027111t112b99"]),
  ("Dogra", RangeTable.ofGaps [
    "CGA0Br"]),
  ("Deseret", RangeTable.ofGaps [
    "CBA0Cf"]),
  ("Duployan", RangeTable.ofGaps [
    "DPA0Da5c387923"]),
  ("Egyptian_Hieroglyphs", RangeTable.ofGaps [
    "CMA0BClaDyq"]),
  ("Elbasan", RangeTable.ofGaps [
    "CBI0B7"]),
  ("Elymaic", RangeTable.ofGaps [
    "CD-0m"]),
  ("Ethiopic", RangeTable.ofGaps [
    "EQ0C8132610132B8132B0132610132e1Bo132C22v3pGP6m9616161616161616-J2525259616CPFh613111e"]),
  ("Georgian", RangeTable.ofGaps [
    "EF0B510502Ba13CygBa22EC0B51050"]),
  ("Glagolitic", RangeTable.ofGaps [
    "LA0CvDMz061g261114"]),
  ("Gunjala_Gondi", RangeTable.ofGaps [
    "CHL05111B4111579"]),
  ("Masaram_Gondi", RangeTable.ofGaps [
    "CHI06111Bb30111889"]),
  ("Gothic", RangeTable.ofGaps [
    "CAZgq"]),
  ("Grantha", RangeTable.ofGaps [
    "CEY0317212l1611142821222060562634"]),
  ("Greek", RangeTable.ofGaps [
    "xg3122310401012101j1BuefGJ64Bi444Ck0K0l252B525271010101u2Bk1e1d251i2218J70BCRu0VOqCeh0BU",
    "CvC5"]),
  ("Gujarati", RangeTable.ofGaps [
    "CU1218121l16111429121220f32b76"]),
  ("Gurmukhi", RangeTable.ofGaps [
    "CQ1215412l16111111201441223073107g"]),
  ("Hangul", RangeTable.ofGaps [
    "EI0HvHRe1I1CtDhuC1uzX1sU3Kz3cm4BgJz4u35252522"]),
  ("Han", RangeTable.ofGaps [
    "LU0p1CocGlBf010p8e3+4GNvC0UPvWI0Ld2D9zI81c6BEA9BJWvB0EIt2FUd2HJgfTdCN2QtBP2Ewa5IJ9"]),
  ("Hanunoo", RangeTable.ofGaps [
    "FZ0k"]),
  ("Hatran", RangeTable.ofGaps [
    "CCH0i1154"]),
  ("Hebrew", RangeTable.ofGaps [
    "BMhBm8q45BzJ8p1410111119"]),
  ("Hiragana", RangeTable.ofGaps [
    "MC1Cl62C-x1Iui0t2QFd0"]),
  ("Anatolian_Hieroglyphs", RangeTable.ofGaps [
    "CRA0S6"]),
  ("Pahawh_Hmong", RangeTable.ofGaps [
    "CwY0C5a9161k5i"]),
  ("Nyiakeng_Puachue_Hmong", RangeTable.ofGaps [
    "DYI0Bc3d2941"]),
  ("Old_Hungarian", RangeTable.ofGaps [
    "CDE0BidBi75"]),
  ("Old_Italic", RangeTable.ofGaps [
    "CAY0B392"]),
  ("Javanese", RangeTable.ofGaps [
    "BKM0Cd2941"]),
  ("Kayah_Li", RangeTable.ofGaps [
    "BKI0Bd10"]),
  ("Katakana", RangeTable.ofGaps [
    "MF1Cp22HgfGgBe1CnBTAe91BcBMCi3161110Iv2Bi0e3"]),
  ("Kawi", RangeTable.ofGaps [
    "CHY0g1B83s"]),
  ("Kharoshthi", RangeTable.ofGaps [
    "CCQ031157121s224978"]),
  ("Khmer", RangeTable.ofGaps [
    "Fy0Ct2969P6v"]),
  ("Khojki", RangeTable.ofGaps [
    "CEQ0h1Be"]),
  ("Khitan_Small_Script", RangeTable.ofGaps [
    "Cx-40GYrOlB90"]),
  ("Kannada", RangeTable.ofGaps [
    "DE0c121m19142812137152132912"]),
  ("Kaithi", RangeTable.ofGaps [
    "CEE0C2a0"]),
  ("Tai_Tham", RangeTable.ofGaps [
    "GR0Bu1s2a696d"]),
  ("Lao", RangeTable.ofGaps [
    "DU1110141n101m2410161923"]),
  ("Latin", RangeTable.ofGaps [
    "C1p6pBf0f05m1u1O0B74GQrB56Bg535c1C5C1HvLh0d0gcEd160r0hB8CWnv+V2D53ChkeZgBa1813Tym6BAqp6p",
    "CB551B918BVw5u65"]),
  ("Lepcha", RangeTable.ofGaps [
    "HA0Bn3e32"]),
  ("Limbu", RangeTable.ofGaps [
    "GI0u1b4b403b"]),
  ("Linear_A", RangeTable.ofGaps [
    "CBQ0Jm9la7"]),
  ("Linear_B", RangeTable.ofGaps [
    "CAA0b1p1i111e2dB2Dq"]),
  ("Lisu", RangeTable.ofGaps [
    "BJGgBf+Vg0"]),
  ("Lycian", RangeTable.ofGaps [
    "CAU0s"]),
  ("Lydian", RangeTable.ofGaps [
    "CCJ0p50"]),
  ("Mahajani", RangeTable.ofGaps [
    "CEKgB6"]),
  ("Makasar", RangeTable.ofGaps [
    "CHX0o"]),
  ("Mandaic", RangeTable.ofGaps [
    "CC0r20"]),
  ("Manichaean", RangeTable.ofGaps [
    "CCW0B64b"]),
  ("Marchen", RangeTable.ofGaps [
    "CHDgv2l1d"]),
  ("Medefaidrin", RangeTable.ofGaps [
    "CxS0Cq"]),
  ("Mende_Kikakui", RangeTable.ofGaps [
    "DwA0G42f"]),
  ("Meroitic_Cursive", RangeTable.ofGaps [
    "CCN0n4j2Bd"]),
  ("Meroitic_Hieroglyphs", RangeTable.ofGaps [
    "CCM0v"]),
  ("Malayalam", RangeTable.ofGaps [
    "DI0c121Bi12154f2p"]),
  ("Modi", RangeTable.ofGaps [
    "CFQ0C4b9"]),
  ("Mongolian", RangeTable.ofGaps [
    "GA01201j6Co7BaB-Nlc"]),
  ("Mro", RangeTable.ofGaps [
    "CwS0u1941"]),
  ("Meetei_Mayek", RangeTable.ofGaps [
    "BKX0mG9Bd29"]),
  ("Multani", RangeTable.ofGaps [
    "CEU0610131e1a"]),
  ("Myanmar", RangeTable.ofGaps [
    "EA0EvBGK0uD1vxCgj"]),
  ("Nag_Mundari", RangeTable.ofGaps [
    "DZGgB9"]),
  ("Nandinagari", RangeTable.ofGaps [
    "CGN072Bd2a"]),
  ("Old_North_Arabian", RangeTable.ofGaps [
    "CCU0v"]),
  ("Nabataean", RangeTable.ofGaps [
    "CCE0u88"]),
  ("Newa", RangeTable.ofGaps [
    "CFA0Cr14"]),
  ("Nko", RangeTable.ofGaps [
    "B+0Bq22"]),
  ("Nushu", RangeTable.ofGaps [
    "Cx-10QMeMb"]),
  ("Ogham", RangeTable.ofGaps [
    "FU0s"]),
  ("Ol_Chiki", RangeTable.ofGaps [
    "HCgBf"]),
  ("Old_Turkic", RangeTable.ofGaps [
    "CDA0C8"]),
  ("Oriya", RangeTable.ofGaps [
    "CY1217212l1611142821227241142h"]),
  ("Osage", RangeTable.ofGaps [
    "CBFgB34B3"]),
  ("Osmanya", RangeTable.ofGaps [
    "CBE0t29"]),
  ("Old_Uyghur", RangeTable.ofGaps [
    "CDxgp"]),
  ("Palmyrene", RangeTable.ofGaps [
    "CCD0v"]),
  ("Pau_Cin_Hau", RangeTable.ofGaps [
    "CGW0Bo"]),
  ("Old_Permic", RangeTable.ofGaps [
    "CAwgBa"]),
  ("Phags_Pa", RangeTable.ofGaps [
    "BKC0Bn"]),
  ("Inscriptional_Pahlavi", RangeTable.ofGaps [
    "CCx0i57"]),
  ("Psalter_Pahlavi", RangeTable.ofGaps [
    "CCy0h73c6"]),
  ("Phoenician", RangeTable.ofGaps [
    "CCI0r30"]),
  ("Miao", RangeTable.ofGaps [
    "CxY0Ca4Bo7g"]),
  ("Inscriptional_Parthian", RangeTable.ofGaps [
    "CCw0l27"]),
  ("Rejang", RangeTable.ofGaps [
    "BKJgB3b0"]),
  ("Hanifi_Rohingya", RangeTable.ofGaps [
    "CDI0B789"]),
  ("Runic", RangeTable.ofGaps [
    "FV0Ca3a"]),
  ("Samaritan", RangeTable.ofGaps [
    "CA0Bd2e"]),
  ("Old_South_Arabian", RangeTable.ofGaps [
    "CCT0v"]),
  ("Saurashtra", RangeTable.ofGaps [
    "BKE0C58b"]),
  ("SignWriting", RangeTable.ofGaps [
    "DWA0Ubf41e"]),
  ("Shavian", RangeTable.ofGaps [
    "CBCgBf"]),
  ("Sharada", RangeTable.ofGaps [
    "CEM0CvCM07"]),
  ("Siddham", RangeTable.ofGaps [
    "CFM0Bl2B5"]),
  ("Khudawadi", RangeTable.ofGaps [
    "CEVgBq59"]),
  ("Sinhala", RangeTable.ofGaps [
    "DM121h3n181026304510176922CA-cj"]),
  ("Sogdian", RangeTable.ofGaps [
    "CDZgB9"]),
  ("Old_Sogdian", RangeTable.ofGaps [
    "CDY0B7"]),
  ("Sora_Sompeng", RangeTable.ofGaps [
    "CEGgo79"]),
  ("Soyombo", RangeTable.ofGaps [
    "CGSgCi"]),
  ("Sundanese", RangeTable.ofGaps [
    "Gy0BvI07"]),
  ("Syloti_Nagri", RangeTable.ofGaps [
    "BKA0Bc"]),
  ("Syriac", RangeTable.ofGaps [
    "BY0d1Br22Iga"]),
  ("Tagbanwa", RangeTable.ofGaps [
    "Fx0c1211"]),
  ("Takri", RangeTable.ofGaps [
    "CFU0Bp69"]),
  ("Tai_Le", RangeTable.ofGaps [
    "GKgt24"]),
  ("New_Tai_Lue", RangeTable.ofGaps [
    "GM0Bb4p6a31"]),
  ("Tamil", RangeTable.ofGaps [
    "Cy2115321331101131323b4432132060ekCE+5Bhd0"]),
  ("Tangut", RangeTable.ofGaps [
    "Cx-00vGXvQ0uD1Di"]),
  ("Tai_Viet", RangeTable.ofGaps [
    "BKU0C2o4"]),
  ("Telugu", RangeTable.ofGaps [
    "DA0c121m1f281213711211232978"]),
  ("Tifinagh", RangeTable.ofGaps [
    "LJgBn71e0"]),
  ("Tagalog", RangeTable.ofGaps [
    "FY0l90"]),
  ("Thaana", RangeTable.ofGaps [
    "By0Bh"]),
  ("Thai", RangeTable.ofGaps [
    "DQ1Bp5r"]),
  ("Tibetan", RangeTable.ofGaps [
    "DY0C71B34B61B31e1641"]),
  ("Tirhuta", RangeTable.ofGaps [
    "CFE0C789"]),
  ("Tangsa", RangeTable.ofGaps [
    "CwTgCe19"]),
  ("Toto", RangeTable.ofGaps [
    "DYUgu"]),
  ("Ugaritic", RangeTable.ofGaps [
    "CAy0t10"]),
  ("Vai", RangeTable.ofGaps [
    "BJI0Jb"]),
  ("Vithkuqi", RangeTable.ofGaps [
    "CBLga1e16111a1e1611"]),
  ("Warang_Citi", RangeTable.ofGaps [
    "CGF0Cic0"]),
  ("Wancho", RangeTable.ofGaps [
    "DYW0Bp50"]),
  ("Old_Persian", RangeTable.ofGaps [
    "CAz0B34d"]),
  ("Cuneiform", RangeTable.ofGaps [
    "CIA0ypD6De14bG3"]),
  ("Yezidi", RangeTable.ofGaps [
    "CDU0B91221"]),
  ("Yi", RangeTable.ofGaps [
    "BIA0BEc3Bm"]),
  ("Zanabazar_Square", RangeTable.ofGaps [
    "CGQ0C7"]),
  ("Inherited", RangeTable.ofGaps [
    "Y0DfIl1O4aq0X03EKrBd2bP421c16406031G6BvQc1G2B0DZp3Db1BTL5fgd+f0H20ECq0BO+4Bd2mR02h726u3Y",
    "LwiHf"]),
  ("Common", RangeTable.ofGaps [
    "0C0q5qBe1e14n0v0O1B6542jDk0906010Tt060e030B00Es0Q40E11BGp0Ml3J20BPf2C71Gb110BGd0d0731512",
    "20Y5b2Cm1a3a1ehB1BuB512251q1gB924UpmalyvI0Tj2E9Q0CtMik101of743Cr130Cq1EjfB0B590BgBvvCgBf",
    "0CoF7GO0BvWI0B1D62F59Hk0F00Mb0e1UOi1Gg9mB21i13Ej01vq5qaa0Bd1C0616a4I224Bc38CgcBjBcH4qBON",
    "43DwsHs3Nj6mfgCvDjBsHlaB62Bt3g817t4BsGljcjcCm9oE7Ck1C6112021231b10161C01327161r131410361",
    "Kj2J32BhFDhC3CcBsW2Bb4D3ce2e1e1B4aFdBop11dBb4871e5Eq+o3g3c3Gp6b40fb4Bn896B78t2b41e8B7Kn8",
    "d2c3a3Bo104f2b497Ei1D6YBA60uCv"]),
  ("Garay", RangeTable.ofGaps [
    "CDK0B53s81"]),
  ("Gurung_Khema", RangeTable.ofGaps [
    "CYI0Bp"]),
  ("Kirat_Rai", RangeTable.ofGaps [
    "CxK0Bp"]),
  ("Ol_Onal", RangeTable.ofGaps [
    "DZOgBa40"]),
  ("Sunuwar", RangeTable.ofGaps [
    "CG+0B1e9"]),
  ("Todhri", RangeTable.ofGaps [
    "CBO0Bj"]),
  ("Tulu_Tigalari", RangeTable.ofGaps [
    "CEy0910201B519102013191181"]),
  ("Beria_Erfe", RangeTable.ofGaps [
    "CxV0o2o"]),
  ("Sidetic", RangeTable.ofGaps [
    "CCK0p"]),
  ("Tai_Yo", RangeTable.ofGaps [
    "DZW0u1l81"]),
  ("Tolong_Siki", RangeTable.ofGaps [
    "CHNgBb49"])]

end ListingQuery.Unicode
