import ListingQuery.Unicode.RangeTable

/-!
# Binary properties

The characters with each property that a character has or has not, by its long name.
-/

namespace ListingQuery.Unicode

/-- The characters with each binary property. -/
def binaryTables : List (String × RangeTable) := [
  ("ASCII_Hex_Digit", RangeTable.ofGaps [
    "Bg975q5"]),
  ("Alphabetic", RangeTable.ofGaps [
    "C1p6pBf0a0405m1u1O94be47010Cm0th1123106012101j1Ci1Ea8F51B5206B8B7d101111108q43ta5Bn16eD5",
    "174742a220gBfdD4oB091405n2ijo7a5n16708B9ab366Cb1f124edi17212l16103337212110804114c1a0421",
    "5412l16111111444121407310h5b218121l16111438121130f3l34217212l161114372121914114d0g115321",
    "331101131323b4432123060B8c121m1f37121281121123s317121m1914371212815213d2cc121B8271212105",
    "374m5121h3n181026851017i1dBp5660Bj110141n101i12241060e3B00Bv71B34i4f1B3C3Bm1024gBva32B51",
    "0502Ba1Kc132610132B8132B0132610132e1Bo132C2B5fgCl253Tb2g1p5Ca3a7jbkcjcc1211cBj2ie040C3Co",
    "7Ba5C5au1b48nt24bBb4pBmr4Bu2jBi0n1b2BhBj1e17BjB923aBb1aeBmm2aB32a5Ba22B931511305FvjB1bIl",
    "252B525271010101u2Bk1610321633254c5216Dk0d0gcD5040291034601010131a235440hB8ZdBjBYmH46331",
    "cB510502Bn70gm96161616161616161vBf0Ol2p874244Cl621Cp135Ba1CthvBgfQ0GNvC0VUcC3Bd2Ic3fa1kB",
    "e573DgB782D62Chkk1B0oBjcC310Bc53012aB05B2ds3Bi1bf0gfa41Bm9dim3C41010o22f23b5252596161Ba1",
    "d6DqlKz3cm4BgII4Ld2D9B66c45b1c141011111DbB1LaiBv2BlB8bDk41E6B4p6pbCo35252522B3b1p1i111e2",
    "dB2DqC5BkIbs3BgBfvdt5Ba5t2B34714BaEtiB34B34B78Bjca1e16111a1e16113BjcJm9la7o51B918C55201B",
    "b11302mam9uC1i11alap6pB6Bn61C031157121sBas3sB371rrBlalaidhDeC8BnBidBidB7B2r305mHqB91131g",
    "5Bi23sa08lBahBekrm9C5Bb4aBo90donBih38B2309Bv1391a010B3h1B12063Bu610131e197Bon317212l1611",
    "14372121306056s910201B519102013113010BcC11213k2uC12110FoBl26p5B2Bu1030BrBl20C7q2dl6FpBoD",
    "7Bvv72027111t112123Ct72Bd251011rBi29hC750iC8D77CoB0v81Bc1610Bht2l1dC96111Bb3011121021o51",
    "11B4111310nBbI4m9g1B832Df0CfypD6DehG3CScD0fBBfh5pDyq5S6GVpBeBWhRo7uhCehtiBfg3vk5iNgBcGjB",
    "vB0o2oBcCa4Bo7gC0110c69HGlB9vD1DiIPt316111J2f0t220e38MbCI4Da5c387940Fx1Ck1C6112021231b10",
    "161C01327161r131410361Kj2o1o1u1o1u1o1u1o1u1o17BZku65Gl61g2611145BtB10DgBca6g0K1tiBbP4rH4",
    "t20Gfu1l81H0613111e1G4BrC33030BFk31q1110201913101060401010121110201010101011102316131310",
    "191g52141gTkp6p6pDTmBJWvB0EIt2FUd2HJgfTdCN2QtBP2Ewa5IJ9"]),
  ("Bidi_Control", RangeTable.ofGaps [
    "BQs0GPh1q4Bn3"]),
  ("Bidi_Mirrored", RangeTable.ofGaps [
    "B81i010s010t010Bd0f0DTu3Bwt1CMs1a1Bm1e1Fh0G033530313313101048501h539110171v2350912i51942",
    "14n2f83k171BBtdCa023111253523dMjl251d807530441124401221a521ci13201020135162o1b14311214Ba",
    "271B750103452403410I00Q333111e129Bb7Nb927BTRt551F21i010s010t0101111BVxn0Bp0Bp0Bp0Bp0"]),
  ("Case_Ignorable", RangeTable.ofGaps [
    "B7060b0B3010C7040104021PnFv41409110Hr6Gf050BhBc10111110Bc0b5aa10B30akg0D571913B1010uqCra",
    "Bqa4020onBb2Bc07158B9BpBn010474036a1d0f0Bq04380k1q021Bp041412230u130b1Bp0441140k1m510Bq0",
    "20138071b1u0Bt0c0Bi030Bn012521371b1t0Bq0206051k1s1Bp14380k1t0C807210Cq026b8D20289016C91r",
    "01010Bnd14115a1B390D63151121p142g3d02160f0Cu0T02zi2t1u1u1C0116802a3050Bd4Bj0C11B20Dm2419",
    "062Gr120Bq0161010276920B708Bd2bk3Bg0141050B88c1B032112Bo0113012Bq721C05Ci21c16406031BiBu",
    "d0B2D4Nt012b2d2d2d1c481a02024Bh41910d0gcBjB0Cyb1Dh2Dt0f0D0vBf0Ol0B433450Ct5Ct2xYm0BH25Ie",
    "0D231910s3Cg1eB1Ce0n2D6331803040p150En1qhd0B67paBe2Bg02321h0l1C252121c080B30b0Bj01221511",
    "0r0e15110D4492Dp02040TZg0EjgRtf30cfB2020F907060b0B3010Bf0Bd1C30l2Q10H20El4BA551B918S6211",
    "53B8240F51Rt3B60q410Jr1o0Bk5C6aBh3Dr0BmeB9021a2Bh3212040a0Bi2B4417Bu0c1Bk8a320Cv22011602",
    "0Et037l1Bp130B5634C65d01010e1Cl72210n0Ck5104111He36111r1Cl72011Da0102510D50102314I3811I0",
    "11040Eg32140B09B8523809522Bec11G601210G961510Cil261111Dq530111610C813010C10Ip1b1Bk45010n",
    "0FGlg6eLG8b32CO04Br693Ps2B81P20BvgC0111d1P-s31611DEu113ESsBd2mR029f26u3Ek2BzrBm4Bh80e0m4",
    "1eBKg61g2611145BtB10F0dLg0Bt3Pr4Hu1Hj020715090Og6Dd7CVf4YDA10uCvE0Hf"]),
  ("Cased", RangeTable.ofGaps [
    "C1p6pBf0a0405m1u1G2134Gf2B271u4D00Ba32123106012101j1Ci1Ea8F51B59B8CYnB510502Ba13V0Cl25CE",
    "2a5Ba22C0FvC0Il252B525271010101u2Bk1610321633254c5216Dk0d0gcD504029103460101013154023544",
    "0hv31ZhBjBYmH46331cB51050+IiBditE4D5331Cck512ZlBa1d6CfTw06c4BA9p6pBF5CfD0B34B3Dka1e16111",
    "a1e1611O30221B918BG5BidBiCtlalCYqBvVL0BvB0o2oZJcCk1C6112021231b10161C01327161r131410361K",
    "j2o1o1u1o1u1o1u1o1u1o17BZk91j65I5BtCEiC3B-cp6p6p"]),
  ("Changes_When_Casefolded", RangeTable.ofGaps [
    "C1pCq0am17B00101010101010101010101010101010101010101010101010101010201010101010101011101",
    "0101010101010101010101010101010101010101011101010111011122311123111101011102011121011307",
    "1111110101010101010102010101010101010102110121010101010101010101010101010101010101010101",
    "0101010101010107111201310101010Hm0Ba0103080601210111g18m0c231101010101010101010101010112",
    "110112BiBg010101010101010101010101010101010901010101010101010101010101010101010101010101",
    "0101010101110101010101020101010101010101010101010101010101010101010101010101010101010101",
    "01010101010101010101010101010102B5Bg0CYoB51050Za5CE296Ba22K00101010101010101010101010101",
    "0101010101010101010101010101010101010101010101010101010101010101010101010101010101010101",
    "0101010101010101010101010101010105120101010101010101010101010101010101010101010101010101",
    "0101010101010101010101010101010101010101010109785a78785b010101087gBf22255225b3c45225J903",
    "160Bdfj0ZipBZgBfBg0122010101310208210101010101010101010101010101010101010101010101010101",
    "010101010101010101010101010101010101010101010801040+Kd0101010101010101010101010101010101",
    "01010101010j010101010101010101010101010E701010101010103010101010101010101010101010101010",
    "1010101010101010101010101010a01011101010104010201030101010101010101010141410101010101010",
    "1310111010101010101010o0xqCfTw06c4BA9pBG5B7E8B3Esa1e1611BXaBiEtlCZqvVM0vC0o+S7B1"]),
  ("Changes_When_Casemapped", RangeTable.ofGaps [
    "C1p6pBq0am1u1Bv1Cj1r2d21104Cs1h6q1110113113142011207020113550a1F60Ba32132106012101j1Be3B",
    "0141E48F51B5aB6CYoB510502Ba22V0Cl25CE2a5Ba22Fp030g0DhEr201Dl252B525271010101u2Bk16103216",
    "33254c5216J903160r0hv31ZhBjBYmDg11117D57331cB51050+IiBdirE6d2Bt9e32241o1Bco1ws0sCfTw06c4",
    "BA9p6pBF5CfD0B34B3Dka1e16111a1e1611BW3BidBiCtlalCYqBvVL0BvB0o2o+RcC3"]),
  ("Changes_When_Lowercased", RangeTable.ofGaps [
    "C1pD5m16B1010101010101010101010101010101010101010101010101010101020101010101010102010101",
    "0101010101010101010101010101010101010101110103110111223111231111010111020111210113071111",
    "1101010101010101020101010101010101021101210101010101010101010101010101010101010101010101",
    "010101010107111201310101010J10103080601210111g18B308010101010101010101010105020112BiBg01",
    "0101010101010101010101010101010901010101010101010101010101010101010101010101010101010111",
    "0101010101020101010101010101010101010101010101010101010101010101010101010101010101010101",
    "01010101010101010102B5Cw9B51050WiClCEj06Ba22K0010101010101010101010101010101010101010101",
    "0101010101010101010101010101010101010101010101010101010101010101010101010101010101010101",
    "0101010101010101010901010101010101010101010101010101010101010101010101010101010101010101",
    "010101010101010101010101010109785a78785b010101087o7878784b4b3c4b4J903160Bdfj0ZipBZgBfBg0",
    "1220101013102082101010101010101010101010101010101010101010101010101010101010101010101010",
    "10101010101010101010101010801040+Kd010101010101010101010101010101010101010101010j0101010",
    "10101010101010101010E7010101010101030101010101010101010101010101010101010101010101010101",
    "010101010a010111010101040102010301010101010101010101414101010101010101310111010101010101",
    "010o0VZbpBG5B7E8B3Esa1e1611BXaBiEtlCZqvVM0vC0o+S7B1"]),
  ("Changes_When_Titlecased", RangeTable.ofGaps [
    "D1pBq0B9n1710101010101010101010101010101010101010101010101010101010201010101010101110101",
    "0101010101010101010101010101010101010101020101220102030502032202010102040203010203010401",
    "1111010101010101010111010101010101010121010301010101010101010101010101010101010101030101",
    "010101010101080211040101010151110113113142011207020113550a1F60Bb0103032i0rB2113210101010",
    "1010101010101014102020BkBf10101010101010101010101010101010109010101010101010101010101010",
    "1010101010101010101010101020101010101011101010101010101010101010101010101010101010101010",
    "101010101010101010101010101010101010101010101010BhB6DTg5CE2810He030g0Di01010101010101010",
    "1010101010101010101010101010101010101010101010101010101010101010101010101010101010101010",
    "1010101010101010101010101010101010101010101650101010101010101010101010101010101010101010",
    "101010101010101010101010101010101010101010101010101885a78785a7878d2787878411603211832187",
    "a211Km0B1f40wbpBw6Bf10311010106020a01010101010101010101010101010101010101010101010101010",
    "1010101010101010101010101010101010101010101010801040cB51050+Ij01010101010101010101010101",
    "0101010101010101010j010101010101010101010101010E7010101010101030101010101010101010101010",
    "101010101010101010101010101010101010a010201010101040401120101010101010101010b01010101010",
    "101040102010101010101010q0ws0sCfTw06c4BB9pBGdB7E8B3Era1e1611BY3BiDtlCZqvVM0vBro+SeB1"]),
  ("Changes_When_Uppercased", RangeTable.ofGaps [
    "D1pBq0B9n1710101010101010101010101010101010101010101010101010101010201010101010101110101",
    "0101010101010101010101010101010101010101020101220102030502032202010102040203010203010511",
    "1111010101010101011101010101010101011111030101010101010101010101010101010101010103010101",
    "0101010101080211040101010151110113113142011207020113550a1F60Bb0103032i0rB211321010101010",
    "10101010101014102020BkBf1010101010101010101010101010101010901010101010101010101010101010",
    "1010101010101010101010102010101010101110101010101010101010101010101010101010101010101010",
    "1010101010101010101010101010101010101010101010BhB6Cw8Ba22Xo5CE2810He030g0Di0101010101010",
    "1010101010101010101010101010101010101010101010101010101010101010101010101010101010101010",
    "1010101010101010101010101010101010101010101010165010101010101010101010101010101010101010",
    "1010101010101010101010101010101010101010101010101010101885a78785a7878d2Bk114010321140332",
    "187a21140Kh0B1f40wbpBw6Bf10311010106020a010101010101010101010101010101010101010101010101",
    "010101010101010101010101010101010101010101010101010801040cB51050+Ij010101010101010101010",
    "101010101010101010101010j010101010101010101010101010E70101010101010301010101010101010101",
    "01010101010101010101010101010101010101010a010201010101040401120101010101010101010b010101",
    "01010101040102010101010101010q0ws0sCfTw06c4BB9pBGdB7E8B3Era1e1611BY3BiDtlCZqvVM0vBro+SeB",
    "1"]),
  ("Dash", RangeTable.ofGaps [
    "Bd0BKs0Bj0DS10BA50CA95Bt0B70f0M60DA4020v140s0Nu0j0Df0BTMg1B50a0F90DT00Ju0"]),
  ("Default_Ignorable_Code_Point", RangeTable.ofGaps [
    "Fd0V10Wc0Cw21BSj1Cl4B-r4q4BhfEHk0BTErfHf0F00Cf8BPF73FGf7YLU5D-v"]),
  ("Deprecated", RangeTable.ofGaps [
    "K90BJ90CI3010CB91CG55Vp1xXGm0"]),
  ("Diacritic", RangeTable.ofGaps [
    "Cu010C70604021PnEu1755h14091Ht4Gh0BnBc10111110E3741E614132C3qCraBqaB21Du7B99grBt0g033s0C",
    "a0g0De0g0De0g0Bf2Bs0g070Dn0De0g0De0g0Dd1g0Ds0Df0c510Db0d4Cb1r0101041C2211Bu0Dg011B8144p6",
    "10a1W12zk1u0Eka90Kr2J40k720Bge2a3e2bC80f0B68Bm1Bq0b1C21C05Cio406022BiBuBgB35bB5aNt012b2d",
    "2d2d1DHg2Jt0Pq5D93Cv0zLi0c110s1Ci1eB1D62D6061c0B50En0rhBp3B40Cv0c0B40El2C13Bj0D4492E01TZ",
    "g0Y1fIe010Bf0Bd1C30Xs0BEv51B918Tt240F51Rr5B60q4Mc022C6aBh3G00B90C81Do1Bu0Cc092D81Fi1Cg1g",
    "0o634Cp211d1Cv030Dr1Hr1Du0Dm1Dj0Id1I2140Es0Cj0i0Ch0N50I2011Ch0C10L71n0FHceLGp0CO04Br6Rk1",
    "R2gCg1P-u31611HY1Bd2mR02358726u3DU2BtG26Ln0Bt3Xu1X06Dd212"]),
  ("Emoji", RangeTable.ofGaps [
    "B306059Df040Hyd0c0Go0m0Cq5f1Lf1c0F60pa42G70H71a090Bq314902021204020112030318250105bb1201",
    "110i021i5101131502141b15120511011k155132040202510201010603060a1f02040104210b1Bg290e0e0Lk",
    "1Of2j1Bj040BGq0c0Sp010DPLa0Ga0F01c1e029Cbp11n0k028l1FeB12Df21122Ci221I61Bub51n7127c02320",
    "41d120819052c28220104060306ClBgC557233930113029H3b40IrBe191FoDgc3a3Bo104f2b49"]),
  ("Emoji_Component", RangeTable.ofGaps [
    "B306059H+j0Gl0BXJb0By+mpPr4BNg3YBTcCv"]),
  ("Emoji_Modifier", RangeTable.ofGaps [
    "Dy-r4"]),
  ("Emoji_Modifier_Base", RangeTable.ofGaps [
    "JQt0Gr0g3DTDn0Bs22022Dl12ali3042127010o0G9140l041Fe234Cj0g290b0Rv02087609922Bo0Bt11110h2",
    "1cH52Ba8"]),
  ("Emoji_Presentation", RangeTable.ofGaps [
    "IYq1Gd33020Q91l1BibBb0j0d081h1518050l0711040207041s0B30104210Bt2o0e0wr1Bj040DRFe0Ga0Fu02",
    "9Cbp10o0k02412l1FeB0c81C51lcBa44cg303C6101Fq2Bud31ni0q1d0CmCkBgC560322333b178H3b40IrBe19",
    "1FoDgc3a3Bo104f2b49"]),
  ("Extended_Pictographic", RangeTable.ofGaps [
    "F9040Hyd0c0Go0m0Cq5f1Lf1c0F60pa42G70H71a090Bq314902021204020112030318250105bb1201110i021",
    "i5101131502141b15120511011k155132040202510201010603060a1f02040104210b1Bg290e0e0Lk1Of2j1B",
    "j040BGq0c0Sp010DPLa0B73D4bf1f0e1B59Dg1c1e029jBnrea0k028139m6Fr2Df21122Ci22135Ht1Bub51n71",
    "27c0232041d120819052c28220104060306ClBgC5572g30152cGqB5c3Bo7a5B87u1c32d9B6cBe191FoCo7eEh",
    "I0-t"]),
  ("Extender", RangeTable.ofGaps [
    "Fn0Qo1xe0Np0Tm0E90Cp0Xg0Dv0CK30Bo0T30Me0C40Ey90Bb4D71Ct2xYm0BPm0+20m0E90Dc0l1VDr0CAg1BOb",
    "0r040BG70J50Dk1Pi2BGf0w00TL81BEs110e1yK81BFh0wk2"]),
  ("Grapheme_Base", RangeTable.ofGaps [
    "B0CuB1c1ShDg72546101j1Gv7F51B52Bh22Be01020209q45h9b01Bdlf1D48061204v201ttCob0eBa963n4090",
    "307e1o501a5vgB9BpBm10138312792s1117212l1610333011612110d1124n5015412l1611111142o31079221",
    "0c018121l16111433801130f14b708117212l16111430206121f1124hb015321331101131323b5011321230l",
    "k6217121m1f3033j2112149791a121m1914312011n2114912ea121B8201152121142194p211h3n1810269166",
    "7922cBf11b78cB5110141n1019119024109923B0n2q10101d1B3i05024Bh7151cB5Bc4060212o233f4c11251",
    "e1B710502Lo132610132B8132B0132610132e1Bo132C25s3p6Cl252Us3Co7hdi319hec12fBj207711b839696",
    "a596Co742B1105C5au43224115703B924bBb4p6a3Bo213Bn10901185d9696dCmBfa3371s9b2v416Bn102210d",
    "Bf815e3Bt5Ba2ab0d0731512205FvC0Il252B525271010101u2Bk1e1d251i22181a5n7Bgg12q1c3B1BuEb4Up",
    "malBYj2Lo315Bc10502Bn71fm9616161616161616B1CtB2p1CocGlqBp6f1Cl4D45Ba1Ct1Cl9Bf1yTc3Bm9Krk",
    "Be40av2Cf258Gskg12131o24496Bn8C3aboc1B58ob0ct6Bf1141211c1a461o1B86121b21710292v1Bi103124",
    "2010og27b5252596161Br4Dk1113396Kz3cm4BgII4Ld2D9B66c4501n141011111U9B0fg9mB21i13441E64Es2",
    "u352525223616d12b1p1i111e2dB2Dq524Bc3Cn1c30BfBcE3s3Bggq4B39t5B5at1B44dBaEt296B34B34B78Bj",
    "bb1e16111a1e16113BjcJm9la7o51B918C55201Bb11302m1C788Bgi115B03q5qB6Bn4j2Bef3121sa8787BvB0",
    "B46b9Bl3s2q5p73c6CgC8BnBidBi7B9c96B58n81Ggu1B93021g588B7B78lb8mh43B6rkm901Blf64t1120cBg4",
    "12113eo799B3509h8B212bBj9017411f1jbh1r314511Bv610131e1a6Be12d98117212l161114301013212130",
    "c6s910201B51011f011301211B7Bn81301k1012uBf11601110202389F6Be1163202qB4Bi811023b96cjBa101",
    "181696jsq3011409mFpBe9020D4Cic72027111n1411631299C672B98313r0aB7614790613Bdd028dC879Cn03",
    "010CoB1e9681B5e015as3vp07020Cb6111B5l09965111B4411010796Bb49Hmi239e1B3813mCm0fBhdyqD6De1",
    "4bG3CScD2dBBfh5pDyq5S6GVptc239BW6Ro7u194Cg196t70aBf7ea9161k5iNgBpG6Cq5o2oBcCa5BnbcC03e49",
    "HGlB9vD1DiIPt316111J2f0t220e38MbCI4Da5c38792020Dx0Hs3Nj6mfgCvDjBsHlaB62Br52m17t4BslC130D",
    "qjcjcCm9oE7Ck1C6112021231b10161C01327161r131410361Kj2J32RhBn3Bi71d16BDku65I5BtEiBca62941",
    "K0tiBb4950Ogr49Gmt2a40G0u1211162491H0613111e1G428BgC3704941YhC3CcBsG231q1110201913101060",
    "401010121110201010101011102316131310191g52141gBk1IeBb4D3ce2e1e1B4aFdBosdBb4871e5Eq+o3g3c",
    "3Gp6b40fb4Bn896B78t2b41e8B7Kn8d2c3a3Bo104f2b497Ei1D6BA5BJWvB0EIt2FUd2HJgfTdCN2QtBP2Ewa5I",
    "J9"]),
  ("Grapheme_Extend", RangeTable.ofGaps [
    "Y0DfIj6I7Bc10111110C8aBgkg0D56252113B30uqCraBq890o3181214Bb2Br8Ban1vBn010474036a1t0Bq010",
    "238090a1q021Bp041412230u130b1Bp0441140k1m510Bq011138072a1u0Br010c090B8030Bn012521371b1t0",
    "Bq02110321371b1s1Bp110238090a1t0C8040221080Ch026c7D2028b6C91r01010Bnd14115a1B390D6315112",
    "1p142g3d02160f0Vv2zi3s2t1u1C0116802a90Bd210Dl1B20Dm2419062Gr120Bq0161010276920BgBd2bk3Bg",
    "942B68c1B0325Bo0113014Bo721Eo21c16406031G6BvQc0G3B0C-u2Ed0D0vRa5D91zOk319B01Cg1Ig03040p1",
    "50En1qhd0B67pa10Bc2Bg0232120B40C352121c080Bf0Bj012215110Ba180He02040TZg0X1fgfLe1St0H20El",
    "4BU621153B8240F51Rt3C14Jt1Cd5C6aBh3Dr0BmeB9021a2Bh32170Bt2B4417Bu0c1Bk8108320Cv2236020Et",
    "037l1Bp11010c090e634C30251020124210e1Cl72210n0Ch02510201111Hb0236111r1Cl72011Da01027D501",
    "02314I3811Hl0a340Eg32140B09B8523809522Bec11G601210G961510Cil261111Dq530111610C813010Kr1b",
    "1Bk452n0FH506eLG8b32CO04Br6BAo0Bv3Ch0b1TFb1ET1Bd2mQu4358726u3Ek2BzrBm4Bh80e0m41eBKg61g26",
    "1114D40F06Ln0Bt3Ps3Hu1Hj0207150Oq6Dd6YFWlCvE0Hf"]),
  ("Hex_Digit", RangeTable.ofGaps [
    "Bg975q5B-V9975q5"]),
  ("IDS_Binary_Operator", RangeTable.ofGaps [
    "L-g129Ph0"]),
  ("IDS_Trinary_Operator", RangeTable.ofGaps [
    "L-i1"]),
  ("ID_Continue", RangeTable.ofGaps [
    "Bg97p401pBf0a010205m1u1O94be47010hDk11231064101j1Ci1Ea142F51B5206B88Bc101111108q43ta5C94",
    "D517291i20gBq2D4eBl40202Bdir4a5n167Ca1E0291i17212l1610332821238041142ba0102215412l161111",
    "11201441223073107fb218121l16111429121220f329961217212l1611142821227241142910g11532133110",
    "1131323b4432132060e9gc121m1f2812137112112329g317121m19142812137152132912cc121Bi121453742",
    "9a5121h3n181026304510176921dBp5e19B7110141n101m2410161923B00n169b01010491B34j1h1B390BpC9",
    "6Cd2B510502Ba1Kc132610132B8132B0132610132e1Bo132C22298efgCl253Tb2g1p5Ca3a7l9lbjcc1211cCj",
    "304129B121a6Co7Ba5C5au1b4baB724bBb4p6aB5r4Bu1s2a69d08d1u2bkCc39h8cDjcBn893Bg2a5Ba22g21B6",
    "5Ql252B525271010101u2Bk1610321633254c5216f1Bh1j0s0d0gcBjc403bh0402910256010101f235440hB8",
    "CTnH468cB510502Bn70fn96161616161616161vQ52pe14244Cl261Cu5Ba1CthvBgfQ0GNvC0VUcC3Bd2Ic3rkB",
    "f491DiB582D62ChkBm40jBjcC5a96n301Bg2B3cs3C0ea6u1Bm9d296m3C8o22f24a5252596161Ba1d6Dq11296",
    "Kz3cm4BgII4Ld2D9B66c45b1c141011111DbB1LaiBv2BlB8b4fgf31o2B041E6j97p401paCp35252522B3b1p1",
    "i111e2dB2DqC5BkE80E2s3Bgf0vvdt5Ba5t2B34714BaEt296B34B34B78Bjca1e16111a1e16113BjcJm9la7o5",
    "1B918C55201Bb11302mam9uC1i11alap6pB6Bn61C031157121s2240B0s3sB371tpBlalaidhDeC8BnBidBidB7",
    "896B5341mHqB91131g5BiB2a08B0vlBakrm9C6vf9Br70do796Bk19438B3209C4431c10B3h1B463Bu610131e1",
    "97Bq596317212l1611141921222060562634b910201B51910201317d1tCa5943uC51089F6Bl28n5B2C030b9B",
    "6Bo796jsq2e4966FpBqD5C9l72027111t1128c9C672Bd2711rBu808C930iC8D77CoB0f9681Bc18f9ot2l1dC9",
    "6111Bb3011188965111B41115796Bb49Hmm9g1B834daCl0CfypD6DehG3CScD0fBBfglaDyq5S6GVpBpBW6Ro7u",
    "196Ce196t24bBm93c99k5iNgBc39G6BvB0o2oBcCa4Bo7gC0111b69HGlB9vD1DiIPt316111J2f0t220e38MbCI",
    "4Da5c387931ECh9Q6Bd2mQu4358726u3Ek2NrCk1C6112021231b10161C01327161r131410361Kj2o1o1u1o1u",
    "1o1u1o1u1o172BhQ0Bm4Bh80e0m41eBCgu65Gl61g2611145BtB10DgBc3d2940K1uhBpOmB9GmBaG5u1l81H061",
    "3111e1G4b6B9Cb49BF631q1110201913101060401010121110201010101011102316131310191g52141gDJk9",
    "BA6BJWvB0EIt2FUd2HJgfTdCN2QtBP2Ewa5IJ9VTE6Hf"]),
  ("ID_Start", RangeTable.ofGaps [
    "C1p6pBf0a0405m1u1O94be47010E141123106012101j1Ci1Ea8F51B5206B8C7q43BdBaB311D210f171a220g0",
    "1ttCob0oB091405l409030no7a5n16gB9BqBl30i079ff47212l16103330g0d112e1a085412l16111111v310j",
    "2g8121l16111430i0f1n0b7212l16111430u112f0h015321331101131323bm0Bk7121m1f30q21121u047121m",
    "191430u211f1h8121B820g05282o55h3n181026BqBf11c6Bq110141n101911902410l3B00Bv71B3r4DjBak0g",
    "5433031724cc0hB510502Ba1Kc132610132B8132B0132610132e1Bo132C2B5fgCl253Tb2g1p5Ca3a7hdiehec",
    "12fBjB3040C3Co7B8105C5auBht24bBb4pBmm9BkCi0CtBeh7Bmtd1aBbqB3B92aB32a5Ba22B931511305FvC0I",
    "l252B525271010101u2Bk1610321633254c5216Dk0d0gcD50402910256010101f235440hB8CTnH46331cB510",
    "502Bn70gm9616161616161616R62p874244Cl441Cp135Ba1CthvBgfQ0GNvC0VUcC3Bd2Ic3fa1kBegu2CfB782",
    "D62Chkg12131mtBjeBhBu53011bramps7Bes0g419a41B8n217km303Bh1031242010o22a72c5252596161Ba1d",
    "6DitKz3cm4BgII4Ld2D9B66c450191c141011111DbB1LaiBv2BlB8bDk41E6B4p6pbCo35252522B3b1p1i111e",
    "2dB2DqC5BkIbs3BgBfvdt5B5at2B34714BaEtiB34B34B78Bjca1e16111a1e16113BjcJm9la7o51B918C55201",
    "Bb11302mam9uC1i11alap6pB6Bn61C00f3121sBas3sB371rrBlalaidhDeC8BnBidBidB3B6r9mHqB961g5Bosa",
    "08lBahBekrmcBkBp120dBcB0oqB3t0208B230cBfe3l010B3h1oj1Bv610131e197BeB67212l16111430i0c4u9",
    "10201B510p010BcBki3k2uBfk110FoBeB93B4Bfk0BrBad0C7qB56FpBbDkBvv72027111nf010Cu72B6g010s0a",
    "B770l0bBdj0iC8G7B0v81B4h0BhtDg6111B5l0p5111ve0nBbI4if01c1B1Ds0CfypD6DehG3CScD0fBBfh5pDyq",
    "5S6GVptBX2Ro7uhCehtiBfg3vk5iNgBcGjBvB0o2oBcCa50C2cC0110e49HGlB9vD1DiIPt316111J2f0t220e38",
    "MbCI4Da5c3879Fx6Ck1C6112021231b10161C01327161r131410361Kj2o1o1u1o1u1o1u1o1u1o17BZku65I5B",
    "tEiBca6g0K1tiBbP4rH4t20Gfu1211162491H0613111e1G4BrC370BFk31q1110201913101060401010121110",
    "201010101011102316131310191g52141gEK4BJWvB0EIt2FUd2HJgfTdCN2QtBP2Ewa5IJ9"]),
  ("Ideographic", RangeTable.ofGaps [
    "MA61p8e2+5GNvC0UPvWI0Ld2D9zIa0d49HGlB9vD1DiIxtMbTI4BJWvB0EIt2FUd2HJgfTdCN2QtBP2Ewa5IJ9"]),
  ("Join_Control", RangeTable.ofGaps [
    "IAc1"]),
  ("Logical_Order_Exception", RangeTable.ofGaps [
    "DS04Dr4CXg220BEHq12011"]),
  ("Lowercase", RangeTable.ofGaps [
    "D1pBf0a040B4n171010101010101010101010101010101010101010101010101010101110101010101010111",
    "0101010101010101010101010101010101010101010102010122010203140203220201010201110203010212",
    "2602020101010101010101110101010101010101120103010101010101010101010101010101010101010101",
    "01010101010101016202110401010101C42B271u4D00Bb0103023i0rB2113210101010101010101010101410",
    "2021BjBf10101010101010101010101010101010109010101010101010101010101010101010101010101010",
    "1010101020101010101011101010101010101010101010101010101010101010101010101010101010101010",
    "101010101010101010101010101010BgB8Cw7Ba13Xo5CE2810DlFvC101010101010101010101010101010101",
    "0101010101010101010101010101010101010101010101010101010101010101010101010101010101010101",
    "0101010101010101010101010101810101010101010101010101010101010101010101010101010101010101",
    "01010101010101010101010101010101010101885a78785a7878d2787878411603211832187a211Dp0d0gcDd",
    "03130r04040218340B1f40wbpBw6Bf1031101010401117301010101010101010101010101010101010101010",
    "1010101010101010101010101010101010101010101010101010101011701040cB51050+Ij01010101010101",
    "0101010101010101010101010101010j010101010101010101010101012E5010101010101210101010101010",
    "1010101010101010101010101010101010101010101010191010201010101040102012101010101010101010",
    "1050501010101010101040102010101010101010l31012ZlBa1d6CfTw06c4BB9pBGdB7E8B3Era1e1611O3022",
    "1B918BI5BiDtlCZqvVM0vBroZK6pq61hqpq310161aqpqpqpqpqpqpqpqpqrso15qo15qo15qo15qo1510BZk91j",
    "65I5BtCFkB1"]),
  ("Math", RangeTable.ofGaps [
    "Bb0g2v0t010Bd040B50v0Wo220q122Qf2GQd0r2b030d0e3l4b4C1c403144i04029102560312112153d10C4n1",
    "511414v1061eIb83k1Cq0uq10o0b6Nt1c945412134e01025b751Bp010t392KgBvI0PvBgk25BT+s0Zn510F20g",
    "2t010t010E3063DN11BQL00BIfCk1C6112021231b10161C01327161r131410361Kj2J32BhFQ031q111020191",
    "3101060401010121110201010101011102316131310191g52141gBk1COu8"]),
  ("Noncharacter_Code_Point", RangeTable.ofGaps [
    "B-OgvQe1B--u1B--u1B--u1B--u1B--u1B--u1B--u1B--u1B--u1B--u1B--u1B--u1B--u1B--u1B--u1B--u1"]),
  ("Pattern_Syntax", RangeTable.ofGaps [
    "B1ea6q310q3B2610111011404030n0v0HYon8e2i19JhWfF0TluBDbQ0DvM124of0BTId1I51"]),
  ("Pattern_White_Space", RangeTable.ofGaps [
    "94i0D40Hy81o1"]),
  ("Quotation_Mark", RangeTable.ofGaps [
    "B2040E30f0Hws7p1DQ70O93d2BTR13Ft040Cq1"]),
  ("Radical", RangeTable.ofGaps [
    "LU0p1CocGl"]),
  ("Regional_Indicator", RangeTable.ofGaps [
    "DyP6p"]),
  ("Sentence_Terminal", RangeTable.ofGaps [
    "B10c0g0BK90Ej2Fk0Bb2Hm0Bt01031J51BX41Ym041Y50G61Et1Bd050Jq1L23F21a121t2Fr1C11z40n192DFf2",
    "Ji0d0m1Nd0zHs0Ie1H3030Lu1Cm1Cv0Eo1Ej2Eg1Hp0UR6021Br031F90c0g0C10CXk1BHt4Bc3Ft1Dl3Dv2E116",
    "0g1Co111Dc0Ja1Dl1Ll15eD91Hp2Q5010Hr1Cn1N41Vk1Ca1SZ91E50C11b0R91J80TQ60HP80"]),
  ("Soft_Dotted", RangeTable.ofGaps [
    "D91G40Ip0u0Bk0k0K00D2010GI90Bj0d030E40Et0N50Gm1CZi0DJz51Bi1Bi1Bi1Bi1Bi1Bi1Bi1Bi1Bi1Bi1Bi",
    "1Bi1CE60Jh1q0"]),
  ("Terminal_Punctuation", RangeTable.ofGaps [
    "B10a010b130Zu080Q10Bp0C80e012Fk0Bba10Hb1Bm517v0I51BHk1Fc045Jn1Yl7Y50Ds2C71Et230B7321Jq1L",
    "23F21a112t2Fr4Bu1z40n192DFf2Ji0d040a01131Nc1zHr1Id2H34Lu1Cm1Cv0En2Ej2Dv0g1Hp0UR6021Bp213",
    "F90a010b130C1020BBq0Bg0BE60G70Jm1Eo5C45Cp3zo4Bc3Ft6Dg3Dv2E1160g1Co4Dc0Ja1Dl2c1L633eD91Hp",
    "2Q5010Hr1Cn141Mu2Bd0U51Ca1BJb4RPp1E50C12a0R91J71TQ60HP73"]),
  ("Unified_Ideograph", RangeTable.ofGaps [
    "NA0GNvC0UPvWQe11011a0101122CBOmBJWvB0EIt2FUd2HJgfTdEN2Ewa5IJ9"]),
  ("Uppercase", RangeTable.ofGaps [
    "C1pD5m16B1010101010101010101010101010101010101010101010101010101020101010101010102010101",
    "0101010101010101010101010101010101010101110103110111223111231111010111020111210113070202",
    "0201010101010101020101010101010101020201210101010101010101010101010101010101010101010101",
    "010101010107111201310101010J10103080601210111g18B30223010101010101010101010105020112BiBg",
    "0101010101010101010101010101010109010101010101010101010101010101010101010101010101010101",
    "1101010101010201010101010101010101010101010101010101010101010101010101010101010101010101",
    "0101010101010101010102B5Cw9B51050WiClCEj06Ba22K00101010101010101010101010101010101010101",
    "0101010101010101010101010101010101010101010101010101010101010101010101010101010101010101",
    "0101010101010101010109010101010101010101010101010101010101010101010101010101010101010101",
    "01010101010101010101010101010109785a78785b010101087C83c3c3c4b3I6040322220346010101323a15",
    "0qfj0ZipBZgBfBg0122010101310208210101010101010101010101010101010101010101010101010101010",
    "101010101010101010101010101010101010101010801040+Kd0101010101010101010101010101010101010",
    "10101010j010101010101010101010101010E701010101010103010101010101010101010101010101010101",
    "0101010101010101010101010a01011101010104010201030101010101010101010141410101010101010131",
    "0111010101010101010o0VZbpBG5B7E8B3Esa1e1611BXaBiEtlCZqvVM0vC0oZK7pqpqpq01120212317qpq113",
    "2716r113141036rpqpqpqpqpqpuoB1oB1oB1oB1oB10EJlB1CAep6p6p"]),
  ("Variation_Selector", RangeTable.ofGaps [
    "GAb210BZPgfwAXgHf"]),
  ("White_Space", RangeTable.ofGaps [
    "94i0D40q0FOv0CLvat150Bf0Dz00"]),
  ("XID_Continue", RangeTable.ofGaps [
    "Bg97p401pBf0a010205m1u1O94be47010hDk11321064101j1Ci1Ea142F51B5206B88Bc101111108q43ta5C94",
    "D517291i20gBq2D4eBl40202Bdir4a5n167Ca1E0291i17212l1610332821238041142ba0102215412l161111",
    "11201441223073107fb218121l16111429121220f329961217212l1611142821227241142910g11532133110",
    "1131323b4432132060e9gc121m1f2812137112112329g317121m19142812137152132912cc121Bi121453742",
    "9a5121h3n181026304510176921dBp5e19B7110141n101m2410161923B00n169b01010491B34j1h1B390BpC9",
    "6Cd2B510502Ba1Kc132610132B8132B0132610132e1Bo132C22298efgCl253Tb2g1p5Ca3a7l9lbjcc1211cCj",
    "304129B121a6Co7Ba5C5au1b4baB724bBb4p6aB5r4Bu1s2a69d08d1u2bkCc39h8cDjcBn893Bg2a5Ba22g21B6",
    "5Ql252B525271010101u2Bk1610321633254c5216f1Bh1j0s0d0gcBjc403bh0402910256010101f235440hB8",
    "CTnH468cB510502Bn70fn96161616161616161vQ52pe14244Cl21221Cu5Ba1CthvBgfQ0GNvC0VUcC3Bd2Ic3r",
    "kBf491DiB582D62ChkBm40jBjcC5a96n301Bg2B3cs3C0ea6u1Bm9d296m3C8o22f24a5252596161Ba1d6Dq112",
    "96Kz3cm4BgII4Ld2D9B66c45b1c141011111DbB1Ea6GpiBv2BlB896fgf31o2B1010301010101Dtj97p401paC",
    "p35252522B3b1p1i111e2dB2DqC5BkE80E2s3Bgf0vvdt5Ba5t2B34714BaEt296B34B34B78Bjca1e16111a1e1",
    "6113BjcJm9la7o51B918C55201Bb11302mam9uC1i11alap6pB6Bn61C031157121s2240B0s3sB371tpBlalaid",
    "hDeC8BnBidBidB7896B5341mHqB91131g5BiB2a08B0vlBakrm9C6vf9Br70do796Bk19438B3209C4431c10B3h",
    "1B463Bu610131e197Bq596317212l1611141921222060562634b910201B51910201317d1tCa5943uC51089F6",
    "Bl28n5B2C030b9B6Bo796jsq2e4966FpBqD5C9l72027111t1128c9C672Bd2711rBu808C930iC8D77CoB0f968",
    "1Bc18f9ot2l1dC96111Bb3011188965111B41115796Bb49Hmm9g1B834daCl0CfypD6DehG3CScD0fBBfglaDyq",
    "5S6GVpBpBW6Ro7u196Ce196t24bBm93c99k5iNgBc39G6BvB0o2oBcCa4Bo7gC0111b69HGlB9vD1DiIPt316111",
    "J2f0t220e38MbCI4Da5c387931ECh9Q6Bd2mQu4358726u3Ek2NrCk1C6112021231b10161C01327161r131410",
    "361Kj2o1o1u1o1u1o1u1o1u1o172BhQ0Bm4Bh80e0m41eBCgu65Gl61g2611145BtB10DgBc3d2940K1uhBpOmB9",
    "GmBaG5u1l81H0613111e1G4b6B9Cb49BF631q111020191310106040101012111020101010101110231613131",
    "0191g52141gDJk9BA6BJWvB0EIt2FUd2HJgfTdCN2QtBP2Ewa5IJ9VTE6Hf"]),
  ("XID_Start", RangeTable.ofGaps [
    "C1p6pBf0a0405m1u1O94be47010E141132106012101j1Ci1Ea8F51B5206B8C7q43BdBaB311D210f171a220g0",
    "1ttCob0oB091405l409030no7a5n16gB9BqBl30i079ff47212l16103330g0d112e1a085412l16111111v310j",
    "2g8121l16111430i0f1n0b7212l16111430u112f0h015321331101131323bm0Bk7121m1f30q21121u047121m",
    "191430u211f1h8121B820g05282o55h3n181026BqBf10d6Bq110141n101910a02410l3B00Bv71B3r4DjBak0g",
    "5433031724cc0hB510502Ba1Kc132610132B8132B0132610132e1Bo132C2B5fgCl253Tb2g1p5Ca3a7hdiehec",
    "12fBjB3040C3Co7B8105C5auBht24bBb4pBmm9BkCi0CtBeh7Bmtd1aBbqB3B92aB32a5Ba22B931511305FvC0I",
    "l252B525271010101u2Bk1610321633254c5216Dk0d0gcD50402910256010101f235440hB8CTnH46331cB510",
    "502Bn70gm9616161616161616R62p874244Cl621Cp135Ba1CthvBgfQ0GNvC0VUcC3Bd2Ic3fa1kBegu2CfB782",
    "D62Chkg12131mtBjeBhBu53011bramps7Bes0g419a41B8n217km303Bh1031242010o22a72c5252596161Ba1d",
    "6DitKz3cm4BgII4Ld2D9B66c450191c141011111DbB1Ea6GpiBv2BlB89Dn010301010101DtB4p6pbBn2u3525",
    "2522B3b1p1i111e2dB2DqC5BkIbs3BgBfvdt5B5at2B34714BaEtiB34B34B78Bjca1e16111a1e16113BjcJm9l",
    "a7o51B918C55201Bb11302mam9uC1i11alap6pB6Bn61C00f3121sBas3sB371rrBlalaidhDeC8BnBidBidB3B6",
    "r9mHqB961g5Bosa08lBahBekrmcBkBp120dBcB0oqB3t0208B230cBfe3l010B3h1oj1Bv610131e197BeB67212",
    "l16111430i0c4u910201B510p010BcBki3k2uBfk110FoBeB93B4Bfk0BrBad0C7qB56FpBbDkBvv72027111nf0",
    "10Cu72B6g010s0aB770l0bBdj0iC8G7B0v81B4h0BhtDg6111B5l0p5111ve0nBbI4if01c1B1Ds0CfypD6DehG3",
    "CScD0fBBfh5pDyq5S6GVptBX2Ro7uhCehtiBfg3vk5iNgBcGjBvB0o2oBcCa50C2cC0110e49HGlB9vD1DiIPt31",
    "6111J2f0t220e38MbCI4Da5c3879Fx6Ck1C6112021231b10161C01327161r131410361Kj2o1o1u1o1u1o1u1o",
    "1u1o17BZku65I5BtEiBca6g0K1tiBbP4rH4t20Gfu1211162491H0613111e1G4BrC370BFk31q1110201913101",
    "060401010121110201010101011102316131310191g52141gEK4BJWvB0EIt2FUd2HJgfTdCN2QtBP2Ewa5IJ9"])]

end ListingQuery.Unicode
