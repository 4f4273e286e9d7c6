import ListingQuery.Unicode.RangeTable

/-!
# General categories

The characters of each general category, by its two-letter name.  Unassigned code points and
surrogates are in none of them.
-/

namespace ListingQuery.Unicode

/-- The characters of each general category. -/
def categoryTables : List (String × RangeTable) := [
  ("Lu", RangeTable.ofGaps [
    "C1pD5m16B1010101010101010101010101010101010101010101010101010101020101010101010102010101",
    "0101010101010101010101010101010101010101110103110111223111231111010111020111210113070202",
    "0201010101010101020101010101010101020201210101010101010101010101010101010101010101010101",
    "010101010107111201310101010J10103080601210111g18B30223010101010101010101010105020112BiBg",
    "0101010101010101010101010101010109010101010101010101010101010101010101010101010101010101",
    "1101010101010201010101010101010101010101010101010101010101010101010101010101010101010101",
    "0101010101010101010102B5Cw9B51050WiClCEj06Ba22K00101010101010101010101010101010101010101",
    "0101010101010101010101010101010101010101010101010101010101010101010101010101010101010101",
    "0101010101010101010109010101010101010101010101010101010101010101010101010101010101010101",
    "01010101010101010101010101010109785a78785b010101087C83c3c3c4b3I6040322220346010101323a15",
    "0Bt0CTsBfBg01220101013102082101010101010101010101010101010101010101010101010101010101010",
    "10101010101010101010101010101010101010801040+Kd01010101010101010101010101010101010101010",
    "1010j010101010101010101010101010E7010101010101030101010101010101010101010101010101010101",
    "010101010101010101010a010111010101040102010301010101010101010101414101010101010101310111",
    "010101010101010o0VZbpBG5B7E8B3Esa1e1611BXaBiEtlCZqvVM0vC0oZK7pqpqpq01120212317qpq1132716",
    "r113141036rpqpqpqpqpqpuoB1oB1oB1oB1oB10EJlB1"]),
  ("Ll", RangeTable.ofGaps [
    "D1pBq0B9n1710101010101010101010101010101010101010101010101010101011101010101010101110101",
    "0101010101010101010101010101010101010101020101220102031402032202010102011102030102122602",
    "0201010101010101011101010101010101011201030101010101010101010101010101010101010101010101",
    "0101010101016202110401010101C42pG10103032i0rB21132101010101010101010101014102021BjBf1010",
    "1010101010101010101010101010109010101010101010101010101010101010101010101010101010102010",
    "1010101011101010101010101010101010101010101010101010101010101010101010101010101010101010",
    "101010101010101010BgB8Cw7Ba22Xo5CE2810DlBbBvc1B1D601010101010101010101010101010101010101",
    "0101010101010101010101010101010101010101010101010101010101010101010101010101010101010101",
    "0101010101010101010101810101010101010101010101010101010101010101010101010101010101010101",
    "01010101010101010101010101010101885a78785a7878d2787878411603211832187a211Ii03130r0404021",
    "8340Bl0CVbBf1031101010401115501010101010101010101010101010101010101010101010101010101010",
    "1010101010101010101010101010101010101011701040cB51050+Ij01010101010101010101010101010101",
    "0101010101010j010101010101010101010101010E7010101010101210101010101010101010101010101010",
    "1010101010101010101010101010101710102010101010401020121010101010101010101050501010101010",
    "101040102010101010101010q030ZlBa587CfTw06c4BB9pBGdB7E8B3Era1e1611BY3BiDtlCZqvVM0vBroZK6p",
    "q61hqpq310161aqpqpqpqpqpqpqpqpqrso15qo15qo15qo15qo1510BZk91j65CPnB1"]),
  ("Lt", RangeTable.ofGaps [
    "O502020B60HMl78787c0f0Bf0"]),
  ("Lm", RangeTable.ofGaps [
    "Vgh4be47010E5050Ou0H60F41Id140v09030F00F70BGk0Dv0Rl0BWq0Db0T30Og5FeBud0B2B4Vh0d0gcC+v1Hh",
    "0Fv0Ol0Bb450D11Ct2xYm0BH25Ie0Di0s1Dp8Cg0n0D8331Ol0m0E90Dc0l1D7390VA60Bd1B-051B918BMj0B00",
    "Kl0DYj0TL63Ps2B81R6cC0110e1P-s31611MBhBtG96zd0Qj0Sb0"]),
  ("Lo", RangeTable.ofGaps [
    "Fa0f0I0043Gg1Zqq43Bdv19B311D210o1a220g01ttCob0oB0llBao7a5n16gB8BrBl30i079ge47212l1610333",
    "0g0d112e1a085412l16111111v310j2g8121l16111430i0f1n0b7212l16111430u112f0h0153213311011313",
    "23bm0Bk7121m1f30q21121u047121m191430u211f1h8121B820g05282o55h3n181026BqBf11c5Br110141n10",
    "19119024n3B00Bv71B3r4DjBak0g5433031724cc0DhK8132610132B8132B0132610132e1Bo132C2B5fDhTb2g",
    "1p5Ca677hdiehec12fBjB80C3B21Bk742B1105C5auBht24bBb4pBmm9BkFgBeh7Bmtd1aBbqB3B92atDh315113",
    "0BBq3C-nBnom9616161616161616R70Bl04Cl801Cp405Ba1CthvBgfQ0GNvC0UQk1BDmC3B78Ib4fa1C20BhC5F",
    "90D703612131mtBjeBhBu53011bramps7BeBd428a41B8n217kf15303Bh1031242010o13a70e525259616EhB2",
    "tKz3cm4BgII4Ld2D9C30191c141011111DbB1LaiBv2BlB8bDk41E6D991Bc2u35252522B3b1p1i111e2dB2DqM",
    "5s3BgBfvdj176B5at2B347E0CdD2B78BjCsBjcJm9la7Eo5201Bb11302mam9uC1i11alap6pB6Bn61C00f3121s",
    "Bas3sB371rrBlalaidhDeC8FnB3B6310JgB961g211Bosa08lBahBekrmcBkBp120dBcB0oqB3t0208B230cBfe3",
    "l010B3h1oj1Bv610131e197BeB67212l16111430i0c4u910201B510p010BcBki3k2uBfk110FoBeB93B4Bfk0B",
    "rBad0C7qB56FpBbGj72027111nf010Cu72B6g010s0aB770l0bBdj0iC8G7B0v81B4h0BhtDg6111B5l0p5111ve",
    "0nB811I4if01c1B1Ds0CfypH6G3CScD0fBBfh5pDyq5S6GVptBX2Ro7uhCehtiBfBjk5iNjB7MlCa50FfHGlB9vD",
    "1DiIQdJ2f0t220e38MbCI4Da5c3879ITg0PlBcB10K1tiBbP4qH5t20Gfu1211162490H1613111e1G4BJr31q11",
    "10201913101060401010121110201010101011102316131310191g52141gEK4BJWvB0EIt2FUd2HJgfTdCN2Qt",
    "BP2Ewa5IJ9"]),
  ("Mn", RangeTable.ofGaps [
    "Y0DfIj4I9Bc10111110C8aBgkg0D56252113B30uqCraBq890o3181214Bb2Br8Ban1vBn010474036a1t0Bq043",
    "80k1q021Bp041412230u130b1Bp0441140k1m510Bq020138071b1u0Bt0c0Bi030Bn012521371b1t0Bq020605",
    "1k1s1Bp14380k1t0C807210Cq026c7D2028b6C91r01010Bnd14115a1B390D63151121p142g3d02160f0Vv2zi",
    "2t1u1u1C0116802a90Bd210Dl1B20Dm2419062Gr120Bq0161010276920Bgd1u2bk3Bg0141050B88c1B032112",
    "Bo0113012Bq721Eo21c16406031G6BvWgc403bC-u2Ed0D0vRa3Db1zOk049B01Cg1Ig03040p150En1qhd0B67p",
    "aBe2Bg02321B70C352121c080Bf0Bj012215110Ba180He02040TZg0X1fgf+d0H20El4BU621153B8240F51Rt3",
    "C14Jt1Cd5C6aBh3Dr0BmeB9021a2Bh32170Bt2B4417Bu0c1Bk8a320Cv220116020Et037l1Bp130B5634C65d0",
    "1010e1Cl72210n0Ck5104111He36111r1Cl72011Da0102510D50102314I3811I011040Eg32140B09B8523809",
    "522Bec11G601210G961510Cil261111Dq530111610C813010Kr1b1Bk45010n0FH506eLG8b32CO04Br6BAo0Bv",
    "3Ch0TFo1ET1Bd2mR02h726u3Ek2BzrBm4Bh80e0m41eBKg61g261114D40F06Ln0Bt3Ps3Hu1Hj0207150Oq6Dd6",
    "YFzlHf"]),
  ("Mc", RangeTable.ofGaps [
    "CI30Bn0228311Bi1Bq26121a0Bb0Bq2C20Bq28011Bl1Bq0106121a0D61113212a0B92Bt3Bt1Bq014211191s0",
    "e1Bq25212a0Ba1Cb267i1Ka1Bv0Fb1406021p1a226l12520a2BTo0u0E107711Kq3224115H01Bq010901185Eh",
    "0Bg0501411Bt0u04120Bs0221031Bg781Fb0l0EZm1z-j120Co1BifEe1Bf0Bg14122De121o0Bd010Dd02150Hd",
    "1111110ZAj010Dv0Bd241Dj0o1Br0Bg291d0Ct23110Fa2v1Bq113212290a1Ck27020131110D528130Da26013",
    "20Hd26320Dh28110Dd01160D701140I5290Hn511402010Ee28340Ck0t1Bu0G903010G70e0Da07020Gl44110K",
    "u1c0Bg18110QP82DR4BmD81YLj165"]),
  ("Me", RangeTable.ofGaps [
    "BE81FRk0BQu312BBMb2"]),
  ("Nd", RangeTable.ofGaps [
    "Bg9BR69E69G69Ms9Dm9Dm9Dm9Dm9Dm9Dm9Dm9Dm9Dm9D09Dm9C69Im9C69Bw69B69Jc9E09F6969Fm9Cm9E6969B",
    "CO69V69B69G69m9Cm9Mm9UYm9BM69CE6969Ys9E09Bs9Eg9Im9Km9Dm9Lm9D696jCc9N69D69Um9Cm9Hm9C69Bm9",
    "L69QOm9CJ69Cm9E69Qm9Xxm9CWkBhCK09N69Pm9Hn9wl9EUm9"]),
  ("Nl", RangeTable.ofGaps [
    "FXe2CTfB223DTu0p8e2zVb9WSgBkOc080E64IBaDeSy52"]),
  ("No", RangeTable.ofGaps [
    "Fi15022CJl5Lo5Do2E56Gp6h8Nh9BBljBDj9P00BUl03569G6fB90WmBrCelTmtBL90BEk3Ea9u71eB09B7ezLg5",
    "WGhBcC13h1KlqB43BJk7p6B78Cb4m5F012f2BdC08Bk1u2Cb4D87o7B96Ka5L0uEu9Ba3Dg6E6jLrjBK51Ne8x7i",
    "wjkSy66YumZB9jcjDcoFKe8z1Bq1213CcBc1e+2c"]),
  ("Pc", RangeTable.ofGaps [
    "Cv0H+v1j0BXOu1o2Hf0"]),
  ("Pd", RangeTable.ofGaps [
    "Bd0BKs0Bj0DS10BA50CA95DQ1020v140s0Nu0j0Df0BTMg1B50a0F90DT00Ju0"]),
  ("Ps", RangeTable.ofGaps [
    "B80Bi0v0DVu010Bwu0CLu030B60Bn0f0Tq010u0BBu0101010101010Cg0B0010101010Mk01010101010101010",
    "1010C0010B10BB50101010p0i0101010Nc0101010103010101020BTJ10Gn0t01010101010101030h01010Fa0",
    "Bi0v03020"]),
  ("Pe", RangeTable.ofGaps [
    "B90Bj0v0DVt010Bwu0CN90Bn0f0Tq010u0BBu0101010101010Cg0B0010101010Mk010101010101010101010C",
    "0010B10BB50101010Bc0101010Nc0101010103010101021BTIu0Gp0t01010101010101030h01010Fa0Bj0v02",
    "020"]),
  ("Pi", RangeTable.ofGaps [
    "Fb0Hxc02120p0DO80104020f030"]),
  ("Pf", RangeTable.ofGaps [
    "Fr0Hwt030s0DO80104020f030"]),
  ("Po", RangeTable.ofGaps [
    "B1212201011a131r0C4050e170Vu080Oi5B90Bm02020Bc1k111d012Ca3D60BbdH92Bmev0I51a0Ec0Do0Dp0M6",
    "0c0Lf0Cq0a1F8e10Dg0Ca441Df5Fb0T48Y50Ds2C71Et212B5513Jp1Go1E0615F01a6s2Ds3Br4Bu1C07b0w218",
    "78823223a1019DEq311Dg0Ef1422028111021a41923101c22Nc2Bp0Ft0zA21Id2D30a0Dj5Ls3Cm1B8210Bh1B",
    "f0D1cg1Ds3Du1g1Hp0UR4620m0k1233213726011El212201011a131r0B4021Mq2Us0Bg0Mu0X70G70v0Ig8B60",
    "Dg6C26Cp3Zj0E44Bc3Ft6Dd113Du3Bg1Cf340d012Co5Db0Ja111Di4a110D80HqmD92scCc0E22Hs0I82Er0Cs7",
    "Cj214Ct9Gn0Cv4Ba1U51CacFf0BDg4Cxs1OTr1E50C1480R82J73K70TFs0HP74Cxj0wu1"]),
  ("Sm", RangeTable.ofGaps [
    "Bb0g2Bt010Bd040B50v0Xu0Qf2GRr0d0B72d2Eb0B7460C445140202070v12010vIbB01Cq0uoB85Ol090Bm7Df",
    "0Kg42uafI0E2mBu4v2I1Bgk25BT+s0Zo012F40g2Bt010E3063DN11BQL00B+g0p0v0p0v0p0v0p0v0p0FZc1COu",
    "8"]),
  ("Sc", RangeTable.ofGaps [
    "B40Dt3BH90Dr0Pi1Pi170Hl0I70S50CMr0CG4B1BBxm0VO30Dc0Eq0Gr131H-m3BQYu0CNg0"]),
  ("Sk", RangeTable.ofGaps [
    "Cu010C70604030Q93cd56101gDl0e1BI20FZk012b2d2d2d1EEs1zT3m91D71+g0e1UC6gxr010F20BzAn4"]),
  ("So", RangeTable.ofGaps [
    "F60204010+h0Ia1Dv1Ge0a0j1Hn0Q30Ll0E2510E40Gf0B90M72f01225k01010E57151153G51Xg9Wj0Wi0EtB1",
    "L1998BM311311a0116510101040b1e01110Bq194231111161u21101uIc74j262Cg1tpB76C7maChCdmFm181Bl",
    "8De1HnBcBbC0HvQ0Bfl16B62E9H55L51Bep1CocGlqf40d1c0l161Kg149B0B590gubt80fvaB6fJvGO0BvVUgBm",
    "x13a110Rt2UK9fLdfC01Bm7Bd2P403041d1Jp8Bpg221c30BfBcBTq1Sf0BA87CD60CEl74gSwa350UKm0Dx3Hfa",
    "23Nj6mffD0DjBsHlaB62Br52m17t4BslC130FqCmBF9PvBn3Bi71d11BW80Cws0E10WhBb4D3ce2e1e1B4nF0Bos",
    "dBb4871e5EqHq5Wo3g3c3Gp6b40fb4Bn896B78t2b41BuKn8d2c3a3Bo104f2b497Ei1Cra0"]),
  ("Zs", RangeTable.ofGaps [
    "B00Dv0FOv0CLvaB40Bf0Dz00"]),
  ("Zl", RangeTable.ofGaps [
    "IB80"]),
  ("Zp", RangeTable.ofGaps [
    "IB90"]),
  ("Cc", RangeTable.ofGaps [
    "0vCvB0"]),
  ("Cf", RangeTable.ofGaps [
    "Fd0BKi5m0G00Bh0M01Cg0DZb0B-s4q4Bh419BXUf0Hp2EG10f0Ix2fBCD03FGf7YLU60uCv"]),
  ("Co", RangeTable.ofGaps [
    "BYA0GHvyBY0B--t2B--t"])]

end ListingQuery.Unicode
