import TranscriptTest.Unicode.Property

/-!
# Scripts

Each script with its aliases and its code points, as of Unicode 17.0.
-/

namespace TranscriptTest.Unicode

/-- The scripts' aliases, in the order of their tables. -/
def scriptNames : List String :=
  ["Adlm,Adlam", "Aghb,Caucasian_Albanian", "Ahom,Ahom", "Arab,Arabic", "Armi,Imperial_Aramaic",
    "Armn,Armenian", "Avst,Avestan", "Bali,Balinese", "Bamu,Bamum", "Bass,Bassa_Vah", "Batk,Batak",
    "Beng,Bengali", "Berf,Beria_Erfe", "Bhks,Bhaiksuki", "Bopo,Bopomofo", "Brah,Brahmi",
    "Brai,Braille", "Bugi,Buginese", "Buhd,Buhid", "Cakm,Chakma", "Cans,Canadian_Aboriginal",
    "Cari,Carian", "Cham,Cham", "Cher,Cherokee", "Chrs,Chorasmian", "Copt,Coptic,Qaac",
    "Cpmn,Cypro_Minoan", "Cprt,Cypriot", "Cyrl,Cyrillic", "Deva,Devanagari", "Diak,Dives_Akuru",
    "Dogr,Dogra", "Dsrt,Deseret", "Dupl,Duployan", "Egyp,Egyptian_Hieroglyphs", "Elba,Elbasan",
    "Elym,Elymaic", "Ethi,Ethiopic", "Gara,Garay", "Geor,Georgian", "Glag,Glagolitic",
    "Gong,Gunjala_Gondi", "Gonm,Masaram_Gondi", "Goth,Gothic", "Gran,Grantha", "Grek,Greek",
    "Gujr,Gujarati", "Gukh,Gurung_Khema", "Guru,Gurmukhi", "Hang,Hangul", "Hani,Han",
    "Hano,Hanunoo", "Hatr,Hatran", "Hebr,Hebrew", "Hira,Hiragana", "Hluw,Anatolian_Hieroglyphs",
    "Hmng,Pahawh_Hmong", "Hmnp,Nyiakeng_Puachue_Hmong", "Hung,Old_Hungarian", "Ital,Old_Italic",
    "Java,Javanese", "Kali,Kayah_Li", "Kana,Katakana", "Kawi,Kawi", "Khar,Kharoshthi", "Khmr,Khmer",
    "Khoj,Khojki", "Kits,Khitan_Small_Script", "Knda,Kannada", "Krai,Kirat_Rai", "Kthi,Kaithi",
    "Lana,Tai_Tham", "Laoo,Lao", "Latn,Latin", "Lepc,Lepcha", "Limb,Limbu", "Lina,Linear_A",
    "Linb,Linear_B", "Lisu,Lisu", "Lyci,Lycian", "Lydi,Lydian", "Mahj,Mahajani", "Maka,Makasar",
    "Mand,Mandaic", "Mani,Manichaean", "Marc,Marchen", "Medf,Medefaidrin", "Mend,Mende_Kikakui",
    "Merc,Meroitic_Cursive", "Mero,Meroitic_Hieroglyphs", "Mlym,Malayalam", "Modi,Modi",
    "Mong,Mongolian", "Mroo,Mro", "Mtei,Meetei_Mayek", "Mult,Multani", "Mymr,Myanmar",
    "Nagm,Nag_Mundari", "Nand,Nandinagari", "Narb,Old_North_Arabian", "Nbat,Nabataean", "Newa,Newa",
    "Nkoo,Nko", "Nshu,Nushu", "Ogam,Ogham", "Olck,Ol_Chiki", "Onao,Ol_Onal", "Orkh,Old_Turkic",
    "Orya,Oriya", "Osge,Osage", "Osma,Osmanya", "Ougr,Old_Uyghur", "Palm,Palmyrene",
    "Pauc,Pau_Cin_Hau", "Perm,Old_Permic", "Phag,Phags_Pa", "Phli,Inscriptional_Pahlavi",
    "Phlp,Psalter_Pahlavi", "Phnx,Phoenician", "Plrd,Miao", "Prti,Inscriptional_Parthian",
    "Rjng,Rejang", "Rohg,Hanifi_Rohingya", "Runr,Runic", "Samr,Samaritan", "Sarb,Old_South_Arabian",
    "Saur,Saurashtra", "Sgnw,SignWriting", "Shaw,Shavian", "Shrd,Sharada", "Sidd,Siddham",
    "Sidt,Sidetic", "Sind,Khudawadi", "Sinh,Sinhala", "Sogd,Sogdian", "Sogo,Old_Sogdian",
    "Sora,Sora_Sompeng", "Soyo,Soyombo", "Sund,Sundanese", "Sunu,Sunuwar", "Sylo,Syloti_Nagri",
    "Syrc,Syriac", "Tagb,Tagbanwa", "Takr,Takri", "Tale,Tai_Le", "Talu,New_Tai_Lue", "Taml,Tamil",
    "Tang,Tangut", "Tavt,Tai_Viet", "Tayo,Tai_Yo", "Telu,Telugu", "Tfng,Tifinagh", "Tglg,Tagalog",
    "Thaa,Thaana", "Thai,Thai", "Tibt,Tibetan", "Tirh,Tirhuta", "Tnsa,Tangsa", "Todr,Todhri",
    "Tols,Tolong_Siki", "Toto,Toto", "Tutg,Tulu_Tigalari", "Ugar,Ugaritic", "Vaii,Vai",
    "Vith,Vithkuqi", "Wara,Warang_Citi", "Wcho,Wancho", "Xpeo,Old_Persian", "Xsux,Cuneiform",
    "Yezi,Yezidi", "Yiii,Yi", "Zanb,Zanabazar_Square", "Zinh,Inherited,Qaai", "Zyyy,Common",
    "Zzzz,Unknown"]

/-- The tables of the scripts, in the order of `scriptNames`, packed after those of the general
categories and the binary properties. -/
def scriptCode : String :=
  "dWi0cB4941.cbjGbJB0.cfy0Q2E4M.bq04151D121V19BP1dB1b1cGbFhGb15cA1SbYsGpD2eFb0FdG41e6dX3Uc3588b15bxy*hiPc5.ccc0L18.bjH*pWH8Zm34.ccy0bL36.gy0cC1bH.bjv0cNbqi8rO.cWwGT25.g+0bJ83.cm03*dtBPO.cXv0O*84ha081bC1DAS.xA1lqPbAdGV.cea0cD4b390.ka0hV.gq0R21.fW0J.cei0bK1H.fa0tVrGc5canQF.cav0bG.bkq0*db2623.eZ0cL25bfXIcF.cdZGR./2DkeGdJ56.clYGd2.cca0*bcOB0.ba0e42f8fWGAf00cC0ed7V+c0cVvYE1byq0bTb10.ci0cG4E2PbhX0VYq09.cgi06*cuTBB9*K4a0bR.cba0cF.dpa0*y6823.cma0bcLAdYQ.cbi0b7.cd/0M.eq0c8*dtFb3V3Pgp6*btSH/j2*bpM9cpfH*y07.cdk0b53S81.ef0*zyKBcYGbA22ec*L7.la0cVdmZ0*cpV9.chl0*czCC.chi0*cWCE.cazGQ.cey03*eaLE*daEE.XG3122310401*yh29UEFgj64bI444cK0k0*pXEb1j70bcrU0voQcEH0bucVc5.cu1*efFOB76.cyi0bP.cq1*ehLUG.ei0hVhrE1i1cTdHUc1UZx1Su3*bW18jZ4*bxT9*gt7BbF010P8E3+4*jZ6I81C6bea9*bbTb4fz0K.cch0I1154.bmHbM8Q45bZj8P*bZB99.mc1cL62c/X1iUI0T2qfD0.cra0s6.cWy0c5*pgT8.dyi0*c+371.cde0*pwD65.cay0b392.bkm0c*b06bki0bD10.mf1cP22hGFgGbE1cNbtaE91bCbmcI3*k250iV2bI0E3.chy0G1b83S.ccq*dv6D978.fY0cT2969p6V.ceq0H1bE.cX/40gyRoLb90.de0C*epVO.cXk*o25ee0c2A0.gr0*ej986D.du1*epDL*daJ9F*daH70b74gqRb56bG535C1c5c1hVl*hrL6eD*yy96b8cwNV+v2d53cHKEzGbA1813tYM6baQP6Pcb*XcK7bvW5U65.ha0bN3E32.gi0U1B4B403B.cbq0*cgJ6.caa0*cjCF.bjgGbF+vG0.cau0S.ccj0P50.cekGb6.chx0O.cc0R20.ccw0b64B.chdGV2L1D.cXs0cQ.dWa0g42F.ccn0N4J2bD.ccm0V.di0*ezP954F2P.cfq0c4B9.ga01201J*euF6b/nLC.cWs0U1*q66x0Mg9bD29.ceu0*qeG9.ea0eVbgk0Ud1VXcGJ.dzgGb9.cgn072bD2A.ccu0V.cce0U88.cfa0cR14.b+0bQ22.cX/10qmEmB.fu0S.hcGbF.dzoGbA40.cda0c8.cy*fd7RH.cbfGb34b3.cbe0T29.cdXGP.ccd0V.cgw0bO.caWGbA.bkc0bN.ccX0I57.ccY0H73C6.cci0R30.cXy0*dZ57.ccW0L27.bkjGb3B0.cdi0b789.fv0cA3A.ca0bD2E.cct0V.bke0c58B.dwa0uBF41E.cb*gJ5cem0cVcm07.cfm0bL2b5.cck0P.cevGbQ59.dm*fg9N2ca/CJ.cdz*kU5dy0b7.cegGO79.cgsGcI.gY0bVi07.cg+0b1E9.bka0bC.by0D1bR22iGA.fX*q651.cfu0bP69.gkGT24.gm0*rjL71.cY2*fnOUKce+5bHD0.cX/00VgxVq0Ud1dI.bku0c2O4.dzw0U1L81.da0*fp7N78.ljGbN71E0.fy0L90.bY0bH.dq1bP5R.dy0c71b34b61b31E1641.cfe0c789.cWtGcE19.cbo0bJ.chnGbB49.dyuGU.ceY0*etQH91181.caY0T10.bji0jB.cblG*de3F.cgf0cIC0.dyw0b*YB5aZ0b34D.cia0YP*qtC9.cdu0b91221.bia0beC3bM.cgq0c7*qdR6L1o4AQ0x03ekRbD2Bp4*pyMH1g2b0dzP3dB1btl5FGD+F0h20ecQ0bo+4*bcYKDylWIhF.0c0Q5QbE1E14N0V0o1b6542JdK0906010tT060E030b00eS0q40e11bgP0mL3j20bpF2c71gB110bgD*rxKBy5B2cM1A3A1EHb1bUb*N451Q1Gb92*rwN6YVi0tJ2e9q0cTmIK101OF743cR130cQ1eJF*/nD6bGbVVcGbF0cOf7go0bVwi0b1d62f59hK0f00mB0E1uoI1g*rrR9eJ01VQ5QAA0bD1c0616A4i224bC38cGCbJbCh4Qbon43dWS*qXFMT3G8*qXF6gL*qXAbNbHfd*qyI7w2*qwCJP11*qwEc5yba*bnnCvVii3l*bnnDbbJf/qF."

/-- Scripts: aliases, then code points in the range code of `RangeTable.ofCode`. -/
def scriptRows : List (List String × String) :=
  packedRowsOf (categoryCode ++ propertyCode) scriptNames scriptCode

/-- The table of a script, by any of its names. -/
def script? (name : String) : Option RangeTable :=
  lookupTable scriptRows name

end TranscriptTest.Unicode
