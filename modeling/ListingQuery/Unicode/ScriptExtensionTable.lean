import ListingQuery.Unicode.RangeTable

/-!
# Script extensions

The characters that are used with a script, for the scripts where these are not just its own
characters.
-/

namespace ListingQuery.Unicode

/-- The characters used with a script. -/
def scriptExtensionTables : List (String × RangeTable) := [
  ("Adlam", RangeTable.ofGaps [
    "BQv0B00GQe0DPh0DOVuCb4941"]),
  ("Caucasian_Albanian", RangeTable.ofGaps [
    "Y40Bc0Bc0CAOhBjb0"]),
  ("Arabic", RangeTable.ofGaps [
    "BQ041Gm1B1CgBfHgB15Ca1sFwf0DPh0BTIeTvB0fDg41E6-3rCx4uC3588B15BXY031q11102019131010604010",
    "10121110201010101011102316131310191g52141gBk1"]),
  ("Armenian", RangeTable.ofGaps [
    "Y80R8B52Bh22BzM34"]),
  ("Avestan", RangeTable.ofGaps [
    "Fn0LLo1BXGeBl36"]),
  ("Bengali", RangeTable.ofGaps [
    "Vs0BUk1h1q317212l1610332821238041142oEWh01021108080204022BC-p0"]),
  ("Bopomofo", RangeTable.ofGaps [
    "W7012d0g1LIl2491ca32060G309BaDgvBTE51Iq4"]),
  ("Buginese", RangeTable.ofGaps [
    "GQ0r21BDzf0"]),
  ("Buhid", RangeTable.ofGaps [
    "FZl19j"]),
  ("Chakma", RangeTable.ofGaps [
    "CP69BSg9CAFmBk1h"]),
  ("Carian", RangeTable.ofGaps [
    "Fn0Hz2020DOj0BVDeBg"]),
  ("Cherokee", RangeTable.ofGaps [
    "Y021061m1b1EDeCl25BFxiCf"]),
  ("Coptic", RangeTable.ofGaps [
    "Fn0S803110Dc1DcdKEgDj56In0BVG8r"]),
  ("Cypro_Minoan", RangeTable.ofGaps [
    "CAI01LUeD2"]),
  ("Cypriot", RangeTable.ofGaps [
    "CAI024Bc38BW05201Bb113020"]),
  ("Cyrillic", RangeTable.ofGaps [
    "Vs0C321010102050HeJfFwgaF00Cc0Dv0D-7vC30z-sCvVye1BYQ0BtB10"]),
  ("Devanagari", RangeTable.ofGaps [
    "Vs0BS3Ci2BaEwgB611-m0BBZv9F6vyQ09"]),
  ("Dogra", RangeTable.ofGaps [
    "CL4bBHW09x+6Br"]),
  ("Duployan", RangeTable.ofGaps [
    "Fn0Sf110o1KYn0DDO3Da5c387927"]),
  ("Elbasan", RangeTable.ofGaps [
    "Fn0Sd0CAPqB7"]),
  ("Ethiopic", RangeTable.ofGaps [
    "Ye0DXhC8132610132B8132B0132610132e1Bo132C22v3pGP6m9616161616161616-J2525259616CPFh613111",
    "e"]),
  ("Georgian", RangeTable.ofGaps [
    "Fn0BGh0CYmB510502BfCygBa22yq0DF5B51050I30"]),
  ("Glagolitic", RangeTable.ofGaps [
    "Fn0Sb010Lu020I10Cxh0Dwu0Cz5CvP30+Bb0COMg61g261114"]),
  ("Gunjala_Gondi", RangeTable.ofGaps [
    "Fn0CFc1CE-q5111B4111579"]),
  ("Masaram_Gondi", RangeTable.ofGaps [
    "CL41CEyq6111Bb30111889"]),
  ("Gothic", RangeTable.ofGaps [
    "Fn0Sc120B80B--uq"]),
  ("Grantha", RangeTable.ofGaps [
    "CKh1h1U0dEGs011u231-m0ByQf317212l1611141921222060562634DCr110"]),
  ("Greek", RangeTable.ofGaps [
    "Fn0S81201010a0Be020Ba72310401012101j1BuefGJ64Bi444Ck2Jul252B525271010101u2Bk1e1d251i2218",
    "Cu0G80BCRu0VOqCeh0BUCvC5"]),
  ("Gujarati", RangeTable.ofGaps [
    "CKh1h1Ir218121l16111429121220f32b76BHJg9"]),
  ("Gurmukhi", RangeTable.ofGaps [
    "CKh1h1Er215412l16111111201441223073107gBHNp9"]),
  ("Hangul", RangeTable.ofGaps [
    "EI0HvHQ12491ce260G30BlCtDhuC1uzX1sU3Kz3cm4BgJS91Iq4Bqu35252522"]),
  ("Han", RangeTable.ofGaps [
    "Fn0LO8p1CocGlqf121c1c1c2068Fr0EkfB0B590BgB7BoBgfbBj0Cooa4D0u1GNvC0UPvBY07UPoLd2D9xb1Iq4y",
    "Ds1c6Yx9hHWu1DNeBJWvB0EIt2FUd2HJgfTdCN2QtBP2Ewa5IJ9"]),
  ("Hanunoo", RangeTable.ofGaps [
    "FZ0m"]),
  ("Hebrew", RangeTable.ofGaps [
    "Y71U8Bm8q45BzJ8p1410111119"]),
  ("Hiragana", RangeTable.ofGaps [
    "MA12491cg510413Cl27Cq1BTK81Iq4a0Bd1BMD1Iui0t2QFd0"]),
  ("Old_Hungarian", RangeTable.ofGaps [
    "ICq020DOj0f0BXRuBidBi75"]),
  ("Javanese", RangeTable.ofGaps [
    "BKM0Cd1a41"]),
  ("Kayah_Li", RangeTable.ofGaps [
    "BKI0Bf"]),
  ("Katakana", RangeTable.ofGaps [
    "Y50t0LGt2491cg51041Cr33CvHgfGgBe1CnBSXd1IqBuBMCg3161110Iv2Bi0e3"]),
  ("Khojki", RangeTable.ofGaps [
    "CX69BHK09wO6h1Be"]),
  ("Kannada", RangeTable.ofGaps [
    "CKh1h1Yqc121m19142812137152132912D+s01160n010BCZr5"]),
  ("Kaithi", RangeTable.ofGaps [
    "CL69JG10+Pu9wC6C2a0"]),
  ("Latin", RangeTable.ofGaps [
    "C1p6pBf0c0205m1u1O030a01210901064re1110f27111B60504cIl1BGa1Bz80DA4B56Bg535c1C5Bp07HvJf0C",
    "10d0gcCj0Bp160r0hB8CWnvMn0+H87qD53ChkeJe0Q1Ba1813Tym6BAqp6pCB551B918BVw5u65"]),
  ("Limbu", RangeTable.ofGaps [
    "CL50Dyqu1b4b403b"]),
  ("Linear_A", RangeTable.ofGaps [
    "CAI7BcBGcJm9la7"]),
  ("Linear_B", RangeTable.ofGaps [
    "CAA0b1p1i111e2dB2Dq524Bc38"]),
  ("Lisu", RangeTable.ofGaps [
    "Vs0g0LJs1zG4Bf+Vg0"]),
  ("Lycian", RangeTable.ofGaps [
    "ICq0BYR5s"]),
  ("Lydian", RangeTable.ofGaps [
    "Fn0LLp0BWXep50"]),
  ("Mahajani", RangeTable.ofGaps [
    "Fn0CFcbBHW09wImB6"]),
  ("Mandaic", RangeTable.ofGaps [
    "BS00Pvr20"]),
  ("Manichaean", RangeTable.ofGaps [
    "BS00CBDvB64b"]),
  ("Meroitic_Hieroglyphs", RangeTable.ofGaps [
    "ICt0BwJ2v"]),
  ("Malayalam", RangeTable.ofGaps [
    "CKh1h1yqc121Bi12154f2pDwq0n0BCZt2"]),
  ("Modi", RangeTable.ofGaps [
    "BKBg9xO6C4b9"]),
  ("Mongolian", RangeTable.ofGaps [
    "GA0p6Co7BaBy40D+h153BZSkc"]),
  ("Multani", RangeTable.ofGaps [
    "CT69CCAg610131e1a"]),
  ("Myanmar", RangeTable.ofGaps [
    "EA0EvBGEe0FhuD1vxCgj"]),
  ("Nandinagari", RangeTable.ofGaps [
    "CKh0i1y09D-p08070BCZl5yLa72Bd2a"]),
  ("Newa", RangeTable.ofGaps [
    "CKh1Ey201190601010BzYiCr14"]),
  ("Nko", RangeTable.ofGaps [
    "BQc0e030N0Bq22BzJu1"]),
  ("Old_Turkic", RangeTable.ofGaps [
    "ICq0DOl0BXOfC8"]),
  ("Oriya", RangeTable.ofGaps [
    "CKh1h1Mr217212l1611142821227241142hEL20n0"]),
  ("Osage", RangeTable.ofGaps [
    "Y102060Cc0CAKnB34B3"]),
  ("Old_Uyghur", RangeTable.ofGaps [
    "BS00CBFh0BDtp"]),
  ("Old_Permic", RangeTable.ofGaps [
    "Fn0S8052a0Lf0B-WcBa"]),
  ("Phags_Pa", RangeTable.ofGaps [
    "GA2110CB90D+i0+BtBn"]),
  ("Psalter_Pahlavi", RangeTable.ofGaps [
    "BS00CBJvh73c6"]),
  ("Hanifi_Rohingya", RangeTable.ofGaps [
    "BQc0e030B00Ej0CBRbB789"]),
  ("Runic", RangeTable.ofGaps [
    "FV0Co"]),
  ("Samaritan", RangeTable.ofGaps [
    "CA0Bd2eJPi0"]),
  ("Shavian", RangeTable.ofGaps [
    "Fn0CAyoBf"]),
  ("Sharada", RangeTable.ofGaps [
    "CKh0Ey501021209020BCw2520wK7CvCM07"]),
  ("Khudawadi", RangeTable.ofGaps [
    "CL41BHWa9wTmBq59"]),
  ("Sinhala", RangeTable.ofGaps [
    "CL41BAr21h3n181026304510176922DXt0BzHej"]),
  ("Sogdian", RangeTable.ofGaps [
    "BS00CCHfB9"]),
  ("Syloti_Nagri", RangeTable.ofGaps [
    "CL41E09BHQgBc"]),
  ("Syriac", RangeTable.ofGaps [
    "Y312110o27111Wq0e120B00aaq0Efd1Br22IgaFMd010"]),
  ("Tagbanwa", RangeTable.ofGaps [
    "FZl1B9c1211"]),
  ("Takri", RangeTable.ofGaps [
    "CL41BHWa9xS6Bp69"]),
  ("Tai_Le", RangeTable.ofGaps [
    "Y015130DJj9CI6t24"]),
  ("Tamil", RangeTable.ofGaps [
    "CKh1h1Qs115321331101131323b4432132060ekEGv0BDAo0wQd010Bn1DE3Bhd0"]),
  ("Tangut", RangeTable.ofGaps [
    "L-gfPf0CPPg0vGXvQ0uD1Di"]),
  ("Telugu", RangeTable.ofGaps [
    "CKh1h1Uqc121m1f281213711211232978ECl11010n0"]),
  ("Tifinagh", RangeTable.ofGaps [
    "Y201013p0KQcBn71e0"]),
  ("Tagalog", RangeTable.ofGaps [
    "FY0l90l1"]),
  ("Thaana", RangeTable.ofGaps [
    "BQc0e120C09ImBhBzS00a0"]),
  ("Thai", RangeTable.ofGaps [
    "Vs0q0Bb0Bd0CWfBp5r"]),
  ("Tibetan", RangeTable.ofGaps [
    "DY0C71B34B61B31e1641IBd3"]),
  ("Tirhuta", RangeTable.ofGaps [
    "CKh1h1Exf0c0f0BCZt9xC6C789"]),
  ("Toto", RangeTable.ofGaps [
    "Vs0DX+ju"]),
  ("Yezidi", RangeTable.ofGaps [
    "BQc0e030C09CCAmB91221"]),
  ("Yi", RangeTable.ofGaps [
    "MA115927Gv0xY4BEc3BmWUq4"]),
  ("Inherited", RangeTable.ofGaps [
    "Yf0201e36202f111h1413BPg1EKrBd2bWmBl1014Qc1G2vBXIgfgd+f0BTI2Bd2mR02h726u3YLwiHf"]),
  ("Common", RangeTable.ofGaps [
    "0C0q5qBe1b1114n0v0O12191030181015542jDu06010Tt0Gn0Q40BKs0Ml3EB7b2B01u1911161a3a1ehB1BuB5",
    "12251q1gB924UpmalyvI0Tj2E9Q0m1n2913101pN2030d0d0l0Qhnv0Bhec3F195Cvv0GO0BvWI8pD62+g0e1UV4",
    "9mk2b1i13Ej01vq5q5Dv616a4MicBjBcBSQ3Hs3Nj6mfgCvDjBsHlaB62Bt3g817t4BsGljcjcCmr6E7Ck1C6112",
    "021231b10161C01327161r131410361Kj2J32BhFDhC3CcBsW2Bb4D3ce2e1e1B4aFdBop11dBb48n5Eq+o3g3c3",
    "Gp6b40fb4Bn896B78t2b41e8B7Kn8d2c3a3Bo104f2b497Ei1D6YBA60uCv"]),
  ("Garay", RangeTable.ofGaps [
    "BQc0e030CBZ0B53s81"]),
  ("Gurung_Khema", RangeTable.ofGaps [
    "CL50CVyqBp"]),
  ("Ol_Onal", RangeTable.ofGaps [
    "CL41DXDaBa40"]),
  ("Sunuwar", RangeTable.ofGaps [
    "Y01109020s030CGEeB1e9"]),
  ("Todhri", RangeTable.ofGaps [
    "Y1020209010Ca0CAT1Bj"]),
  ("Tulu_Tigalari", RangeTable.ofGaps [
    "DH69EA2010BCZr5Fr0wUe910201B519102013191181"])]

end ListingQuery.Unicode
