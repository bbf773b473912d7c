import TranscriptTest.Unicode.Ranges

/-!
# Word characters

The characters that `\w` matches in identity patterns and that their word boundaries look at:
Alphabetic, Mark, Decimal_Number, Connector_Punctuation and Join_Control, as of Unicode 16.0.
-/

namespace TranscriptTest.Unicode

/-- Word characters in the range code of `RangeTable.ofCode`. -/
def wordText : String :=
  String.join ["bG97P401PbF0A0405M1U1o94BE47010HdK1123106012101J1cI1eA1fC1b5206b88bC101111108Q43TA5c94d517291I20",
      "GbQ2d4EbL40202bDIR4A5N158cA1e0291I17212L1610332821238041142BA0102215412L16111111201441223073107F",
      "B218121L16111429121220F329961217212L1611142821227241142910G115321331101131323B4432132060E9GC121M",
      "1F2812137112202329G317121M19142812137161132912CC121bI1214537429A5121H3N181026304510176921DbP5E19",
      "b7110141N101M2410161923b00N169B01010491b34J1H1b390bPc96cD2b510502bA1kC132610132b8132b0132610132E",
      "1bO132c222b0FGcL253tB2G1P5cA3A7L9LBJCC1211CcJ304129b121A6cO7bA5c5AU1B4BAb724BbB4P69b6R4bU1S2A69D",
      "08UbHcC39H8CdJCbN893bG2A5bA22G21b65qL252b525271010101U2bK1610321633254C5216F1bH1J0S0D0GCbJb0H040",
      "291034601010131A235440Hb8zDbJbyMh468Cb510502bN70FN96161616161616161VbF0oL2PE14244cL21221cP135bA1",
      "cTHVbGFq0gnVc0vuCc3bD2iC3RKbI191dIb582d62c2211017LbL40JbJCc5A96N301bG2b3CS3c0EA6U1bM9D296M3c8O22",
      "F24A5252596161bA1D6dQ11296kZ3CM4bGii4lD2d9b66C45B1C141011111dBb1lAIbV2bLb8B4FGF31O2b041e6J97P401",
      "PBcO35252522b3B1P1I111E2Db2dQc5bKe80e2S3bGF0VVDT5bA5T2b34714bAeT296b34b34b78bJCA1E16111A1E16113b",
      "JCjM9LA7O51b918c55201bB11302MAM9Uc1I11ALAPc6bN61c031157121S2240b0S3Sb371TPbLALAIDHdEc8bNbIDbIDb7",
      "896b5341MhQb91131G2bNb0A08b0VLbAKRM9c6VF9bR70DO796bK19438b3209c4431C10b3H1b463bU610131E197bQ5963",
      "17212L1611141921222060562634B910201b51910201317D1TcA5943Uc51089f6bL28N5b2c030B9b6bO796JSQ2E4966f",
      "PbQd5c9L72027111T1128C9c672bD2711RbU808c930Ic8g7b0F9681bC18F9OT2L1Dc96111bB3011188965111b4111579",
      "jMM9G1b834DAcL0cFYPd6dEHg3csCd0FbbFGLAdYQ5s6gvPbPbw6rO7U196cE196T24BbM93C99K5InGbC39g6bVe0cA4bO7",
      "Gc0111B1Ef/N8bgLb99ix7316111j2F0T220E38mBci4dA5C387931ecH9q6bD2MqU4358726U3eK2nRcK1c6112021231B1",
      "0161c01327161R131410361kJ2O1O1U1O1U1O1U1O1U1O172bHq0bM4bH80E0M41EbcGU65gL61G2611145bTb10dGbC3D29",
      "40k1UHbPoMb9gMbAp5613111E1g4B6b9cB49bf631Q111020191310106040101012111020101010101110231613131019",
      "1G52141GtKP6P6Pct69ba6bjwVb0ebP6gT2fu1EhjGFtDcn2qTbp2eWA5ecVvxkGhF"]

/-- The word-character table. -/
def wordTable : RangeTable :=
  RangeTable.ofCode wordText

/-- Whether a character is a word character. -/
def isWord (c : Char) : Bool :=
  wordTable.contains c

end TranscriptTest.Unicode
