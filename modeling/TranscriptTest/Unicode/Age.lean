import TranscriptTest.Unicode.Property

/-!
# Ages

The version of Unicode in which each character was assigned, from 1.1 to 17.0. The script engine
knows the characters of every version here; the identity patterns know those up to 16.0, and to
them a character of a later version is unassigned.
-/

namespace TranscriptTest.Unicode

/-- The tables of the versions, in the order of `ageRows`, packed after those of the general
categories and the binary properties. -/
def ageCode : String :=
  "0pL4TbOcO7bE19Mc5Q1I140305*pw46bB16*WL9HDB1c11B1b89bK21213R2721bNb5261b610b6918CQ54N0E0301P5IDD2c7241E1T29q721bK2H243OG2*dpMD*bcnO8*dpO6K702*dpKLB3107EC21610*dpKJ059H*cOA1232731228141124AH*dpGI71244*K490FBE2*doOA4612137*B49I1*OI701*QCF452*c658149eHbP4Sb51102*44063161210*G5C*YjO6152921o2b5Ab6404cP5c35cHda6eQ5cP6*poGb2bE1Mb363QHAb5HUbOQbFDcQLhHE01dOe5b4RALeALeLAcFGJ6cLeH3132R1b21013301626EU3N1Dcc1bN701cJ452cT6b74cT1Fd0S3b3SR3bHFB4bE1dM4d22Ugq1un5qcQgrDgI6C46O*kk2ECG*kk28b43CK49*va2EcT2c*va5DE2.bmHG1CK0cjRc71b07Q45101K3610dx10qF0bcWKkZ3cSb/Vch*hy3c3eaa1.ifC0bxWF0.pM3U72HdL4bH0A4cN8J0dK0*y68U0C0c20C0bA123cS1eS0g82d2150F0bA41D1T3QbLbGboH1*d/OII2lL0bB0N270121E20bGb1141116336Pn661bU10*cf9A*76*JC6161M1*I8b61I6Rb3cKCtL9S3cGeFcS39ME196cN8b9bY50O5cV2bI1cL1c80d78iD0dP01TeA1o97b10cM1mEhVbm0*p/28BbS230l1Ns8gnLusAbeC3H2F1B1210vsM0bgR2./K1b+oQVbiGU13CQfLb52b5bsZIhLAb63fJr2*bkKI311*bkMLH4j14bHka0bjwMuj9qTwbp30UcV.r00jE0JCd81S0eJ1bP12121bHFkU1k10ck51bq7C16BM9*egK7cgJ0644074D0bU1bI6cIEf8BhIDdS0UbJiSJeN9cO7M1cQB29gUDcQR4Fi0pVbjR2cN181cU0hGFcHEcHEYp21G0C030vlAbQYH03FbL1bC0hB1.r10I2dN1bVGcG752eN4q4398c02eL1F0bD2T2nK0fO0c3010e80cK2D*D4bR0e17g11cyV0I9i6S3B4B4*qrM6dBVy0dBx71h60uJ1jE0iK1dK7E1bcUDbyF1bH0bB1cE3f73d31V0go0bVbl/T0c91nN*qgIL8s0T10e61b6cF29WM*cgBB0bsw0cMlA0ylbUhF.rNAiM4eV3hM1fA0b22c30I0bQ5hHTqF0cG0p70bF0/91j7110iA0bV*3570V*25F*B4N1VPbp6b96P6941b0R21WCcNuH116bH4T3bL0cG0F0u4ArS0d51IA5FiE6W75hCbE1bEb1dAEbCAbL90G*qvDJN41Z2FfE0Xj7LbW4Mh9bBus4d9zM9z6cAqLb34DbrA*efB8Q424888brZ7c5bcU1.s2DjB2kH0bA5G3f60q5bQm0111X21D1dqDcB4bCs76bJ1xC3cT1bL0sNBwA0iK3W9653jSC73+uV351iUbNye8P50fx0XEeHd2D3blxCHbcO1.XG321cN0fN0eCFh24B4b04jEHpH1gU0b30gE0T1dC0dC0Q181K7fT060T1C536pB1d1032cD050207245QbV41caA0wLbA3Bc6bN3E3bIkBRfL3cQ5l40eB0cU0bL3biK0L933i80V3zB44b834iO21245l2VO32IxS0f2JXoO7bjSjBKV2H8Re342dAdE4e0c49Bb6cJB0f0*eyF623u+42X9BbKbD*eu36bsFP50br/90hwMbB4d3.bj41wQbD2Eg10cD060b31e00boP3g13fS4c44cI5q00tM8rGc5fK1bE0c5*fe686Dr2b2iA0vO2eN2bM0sU0vL1T2491I104NcN0/T4iM0D1dB6jV0baIBXlK7bi4bFn0cNjO9f6Rd4S3cD1A41e0R4c2O4h0bD29kZMM4bGitF2doIL18fQ1k4Ve0*qY477e0c8qNUq1c1hzUbbEbpgHA5U20B0*la46348070P01120A320dF0Fb1E8bnfNebK.bj61hO0bU0p0R20gR1J061R4pQ5nH0G0J0rT3c91Y21cd1bJ83pS0uO7S0zFAwQ0J013T*syJC91bK2O0E0E1bn00E0bbO2Zf51jB111E9cG0y6*dm59ue3FfbUcD4TvYGrOro71qeUE2D2E1EcG01A1*hj06257161968102119411*tg56bF8*sWR6F51c53JCb414LGFbU101fL133bTINeJ41F12*kkR952310231B4AbGc5bQdJbp+CgT.bmF0dK0uR01AbNQpH0/D1p7050bF2cvB2C5i07bB3cwK010bj41bJ*U4O1gA9YmG0bv77b30hI1M0cD1x6MtzN1dWGbN61byG*fcB7DbSc879bf6bN89wbMc4BbEGG/t*j+Sc5tO1+K3fS0G03*gvM961401140.ifQ0*Zo36s93.XV0n87cT1dM0uR0B5cC0dO070tV0bJ0*E4V0h49ci17r41mHErP1hDEw52zM6y50bcC2AP2V2b13B17tA6+cL5hMBB221c50p8UdT3fGbF41uw16WT1J0jVRb30bGbAm5*rvN60eG*dx56hObU88oGVb0b64Be9H73C6bgF0gGb6cM0C06JBH1bAdIbQ597*glLJ9*flC7iBc7*fkF7H*l559s6cIC0o0bOcdMb9gAB50roBU1941d0T25Ac5*rhU8udG*rg397kWSg42Fb/80b0LL1qKB90c60MBb50535BH6c7010fM041bV146TH1b81cLc61DbFc69GC33eCcKbB*q+LB.cfJ1bE0qL0l00i40buL025dg00gB1ct03Y+T8bw80hG0b25k41t23CcFutE1cvGI1154fS12F2bDu0*rYG65bg93E4f0*rzG9cM0cF0tPJj2P3E4FdcP0h6g3hvSs6bcYNAbqNuBF41EgdT2cE1cF4b47hV0cB4hJ1eB0rV8d74bR0bpsVfu1.cfM7MEYT0gE04216N2dy78lI0bpV3cs41+l90iM0wg71z1*WxN6k20o1cP1010q2CbmJ81bC1DAS3V2L1Duz90Vf/CJxIviD*flI9cgLcA5941cbRHeE0zU0b90jC1b12r2517802B1B4Eb6C.cd0AmH1hS5q00bQ1dZQ0hU3w50zV0b+I0tI4x40Xv7KyW22fwGc78bJ2M14sT*fyJEuu70qb0iScHmBpX45bdD1b21q7BJ08711P0ICb65bOMbvg9hjG.bl00b70d60qD2gJ0jA0dN0mD0dV0c/J0baNbA22dxQ2MO4EsB4x00XvR4bZV081k41yjK1I0vNb789o6b78b9lJ0dM2pK0j20vR0h5bRt10w2*fZICjMOtW7cQgkI4sxEJdU6ghOc3bdQ0bo90gR3lK2S4233013OAD971b4Od0D.ddN0qE*isR6540707120D0drV0dwE0bL0sF0+lA524YV1zdOMbd80sO0x772bD2AeV1bjQbHD0fbG8oyC540bF8cQ1gaE5kkO2H3lYO*fzH71lGbP50bsB0ZLbSbbE0bl80b40h5Bj12bF0bH090b9531A53722bGcJS34252D5.mxV0.cfU9uD0nE0dS0djT1egM0vO2X84g/M9urGCb+A3bA1bL0zR3vrG0dh3b91221hURlR0e61uA051beU6*gkABB99bsM0ubJ0B1gy1p2bA8za42cT2bT0bj81b31nJ1cQ0d5041bA162T0f80E3FI7692D6b9eI1bMb59bkwT6wj2eWA.bqT0sIU1167L0IAX90b0*qP5rF07090hF0vHDdT0bG1tR0w50cXE0bF0pJAYmV2b+01E11014O2u+D0lTFdV0bE1bXG*ZiUH5*koD6ZLPh65cC0bpM0e66X9FfgGd2otTcE19rj631611j03hoTbD2M9dJr51diLUXHUbjH*erK7dwU2iG0m80cI0fE1bC3A382H26786bk/71ecL3.dhJ0oQ0cabE2zV2cfU9/MG1b83RfgL09S/gS0b20ilAJdcH5i*gkE6bc0b9ep20eN244cP0uR2F1b42B210E1A1C0E1bpc00xaMecV.l/S3pF0foq0tD.ceN0evM1bF0i91bYS2dnQ1Zp52C2xp3bJbWCb53S81jI2bN0be3*gY8H91181xDJbgSb1E9X00fi5dYQhi5bPda6bPhY50py0hP6nJfySbA40evI941o7*WaC670L02090h1b4.ceF0+C0dV0dpIE2BboL0cwK0/bN12010S0u+HFnT1bM6cXHPblB288b11dd47s8bB49ufMO2OiU4ga17bi9Ld1dIpy72nTMFGf+*/qM6d+O0eU3kL8lR3*++96P040S040iA0bozV5fX2Bvi2eg9."

/-- Versions with their aliases, oldest first, each with the characters it assigned in
the range code of `RangeTable.ofCode`. -/
def ageRows : List (List String × String) :=
  packedRowsOf (categoryCode ++ propertyCode)
  ["1.1,V1_1", "2.0,V2_0", "2.1,V2_1", "3.0,V3_0", "3.1,V3_1", "3.2,V3_2", "4.0,V4_0", "4.1,V4_1",
    "5.0,V5_0", "5.1,V5_1", "5.2,V5_2", "6.0,V6_0", "6.1,V6_1", "6.2,V6_2", "6.3,V6_3", "7.0,V7_0",
    "8.0,V8_0", "9.0,V9_0", "10.0,V10_0", "11.0,V11_0", "12.0,V12_0", "12.1,V12_1", "13.0,V13_0",
    "14.0,V14_0", "15.0,V15_0", "15.1,V15_1", "16.0,V16_0", "17.0,V17_0"]
  ageCode

/-- The characters first assigned in a version, by any of its names. -/
def assignedIn? (version : String) : Option RangeTable :=
  lookupTable ageRows version

/-- The characters that Unicode 17.0 assigned: the identity patterns do not know them. -/
def addedIn17 : RangeTable :=
  (assignedIn? "17.0").getD default

/-- The names of the versions up to and including the one named, oldest first; `none` for a
name that is no version. -/
def versionsThrough? (version : String) : Option (List String) :=
  let key := normalizeName version
  match ageRows.findIdx? (fun row => row.1.any fun a => normalizeName a == key) with
  | some i => some ((ageRows.take (i + 1)).filterMap (·.1.head?))
  | none => none

end TranscriptTest.Unicode
