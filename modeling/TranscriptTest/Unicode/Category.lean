import TranscriptTest.Unicode.Ranges

/-!
# General categories

Each general-category value with its aliases and its code points, as of Unicode 17.0.
-/

namespace TranscriptTest.Unicode

/-- The tables of the general categories, in the order of `categoryRows`, packed together (see
`packedRowsOf`). -/
def categoryCode : String :=
  "0VcVb0D0wA1637010K0mD0b61bI130bN7R36GM0g00bG1bR1d5DbR1bH1F0S110B4b06cB0f108121M0701241912147132051P13063*S62*24110532132164016H9309030*b0651A030311E41C6703*cO5*S7*cO53633*C4I9206230422010222232C35*I41151DL4D030N0G190304620302141A6M*O5A05*Q843041A03BD030bJ03063G1Q030I2O090117213601085A13BbQ3Tb4201050O010N1501070A14Vc80b43b70b40F0Db4g601411lP041701041b9*541*G9F0b*T4c31b02Q5cM161uT2cP6M8O8K*eM52BcU1A5A5E0B5cP6bB4c69V0C3C312bA15AbC3Q5B2bU1c10T1B5A5E1bE1CJcD0f67bS2F2bU4bB1B7bB4qM161b6161801*25V1bL0F0E160J13090B4Q4bHF21R0D2b2Db1EeC3uQLBKbyK1lU4bD*gU5bO62DO870*2EdUb1Q0cPBgMPcG0cM1d74bB0cU0cM8bG0YtD2bN8kSJfO7gTJbS2A5bO7c67C5dKAU2cE0B3b10bN8E1A1d7NS961616*dD5bS3dU1A5kZ4BN3bHii3lE1dAb57B54Q0501*tL5uAVbA5bJ0J04350e73fU261*2432707C21C0Q0J020F1Eb1dR433bD2cO0D21bEbEe1T2bHES3b48U4bB4U0b53Eb9eU1A5b43*3487bKAC0F*vF5B*862bKBjN8M98N60bA09c46110bC02211N0c879bFJ024b12R4Rb5bO3K1bI0248030T133A696c0Vb73C8bM2T1R4Q64B7cFc9bMbJCbJ6bE7A5b62T72gFV0bA0312F679b0bE7bALQb5SJN8cE3b48bU05CP6A5bL0I7b78d00KAI0bFbT*uM50F0B5bR4A54*Y3C0A12131151471725AA01110b60*9640A0272ScS05Tc87Af5bM1b6b1c5AA5DIbQ5A5KRR1F3NfObSd3cJB81118020U021C8Ac581bE1BQc87cJCc96AcL8cNb2DA590bD0E9T2b01M0Ec87020bC2102097A56*F4502066A5bC3AhLP6H0b92TcK1EbICYRd5dF05Ag4csBd3CbbGFM9dYR4s7gvObQbw5rP6V0A3cH0A5U169c69A070L4JnFbQg5cR4P1PbBcB3bP6HbV5A78hgMb8b0d0dJipS4*jJ5j3E1S311D47mCci3dB4D296A14dWVhT2nK5NEHEbE1N8dKbRhM9b71cA7dGKc6dPKBKBcN8Pe6cL0c7021112140C01070c10418070S040501270kK1j41vUE50FbcFV56gK70H1*o054bUb01dFbD2E1A32jVVGbQ41oFbAgLbB31fVV0M72gV704020F0g51Gb8cC3A32yGc4cBbTg140R02*pJ5A04010151310*243*O7*27*E540704*b85A0H43050HbJ2iDbC3d4BF1F0F0b59fEbNTCbC3962D6eP+P2H2D2gQ5C31EC3bO7A5b87U1C32D9b6kO7E1D2B2bP013G1C3A6eJ0d7ba4bjx0VeiU1fuE1hjHEtEcn1qUbp1eWB4ijAvte5hGf/qF.*by86.fD0bkI5*bxH6H0m01cG0dzB0b/S4Q4bH419bxuF0hP2eg10F0iX2Fbcd03fgF7ylu60UcV.XO*bWFQAiE0bS*bWAJ24hD*bW7l8Q*bW5dAd50C*bW1f93it*bW0b5110*bW2E95*bW2hFc4911*bW2i9c*bW0dI8dWR*bW0Pg2*bzTl1sY61Td0dVhGb/qFb//U1*55.bya0ghVYby0b//T2*54.bwa0b/V.c1P6PbF*hQ55M1U1o94BE47010e141123106012101J1cI1eA8f51b5206b8c7Q43bDbAb311d210F171A220G01TTcOB0Ob091405L409030NO7A5N16Gb9bQbL30I079FF47212L16103330G0D112E1A0854*O6*15V310J2G8121*K6430I0F1N0B7212*K9U112F0H015321331101131323BM0bK7121M1F30Q21121U04*I69*bR5211F1H8121b820G05282O55H3N181026bQbF11C6bQ110141N101911902410L3b00bV71b3R4dJbAK0G5433031724CC0Hb510502bA1kC132610132b8*540*G9E1bO132c2b5FGcL253tB2G1P5cA677HDIEHEC12FbJb3040c3cO742b1105c5AUbHT24BbB4PbMM9bKcI0cTbEH7bMTD1AbBQb3b92Ab32A5bA22b931511305fVc0iL252b52527*xM7U2bK*mS521633254C5216dK0D0GCd50402910346*bF631A235440bK1ctRh46331C*hQ8N70GM961*2DcG0oL1bA4514cL621cP135bA1cTHVbGFq0gnVc0vuCc3bD2iC3FA1KbEGU2c5bH82d62cHKG12131MTbJEbHbU53011BRAMPS7bES0G419A41b8N217KM303bH1031242010O22A72C52525*f05bA1D6dITkZ3CM4bGii4lD2d9b66C450191C14101*14dBb1lAIbV2bLb8BdK41e6b4P6PBcO352*242b3B1P1I111E2Db2dQm5S3bGbFVDJ176b5AT2b347bGeTIb34*3478bJCA1E*wS5*873bJCjM9LA7O51b918c55201bB11302MAM9Uc1I11ALAP6Pb6bN61c00F3121SbAS3Sb371RRbLALAIDHdEc8bNbID*343b6R9MhQb961G5bOSA08LbAHbEKRMCbKbP120DbCb0OQb3T0208b230CbFE3L010b3H1OJ1bV6*qB5E197bEb6*Z1DI0C4U910201b510P010bCbKI3K2UbFK110fObEb93b4bFK0bRbAD0c7Qb56fPbBdKbVV72027111NF010cU72b6G010S0Ab770L0BbDJ0Ic8g7b0V81b4H0bHTdG6111b5L0P5111VE0NbBi4IF01C1b1dS0cFYPh6g3csCd0FbbFH5PdYQ5s6gvPTbx2rO7UHcEHTIbFG3VK5InGbCgJbVb0O2ObCcA50c2Cc0110E1ChgLb9Vd1dIipT3*i35j2F0T220E38mBci4dA5C3879fX6cK1c6112021231B10161c01327161R131410361kJ2O1O1U*4F7bzKU65i5bTeIbCA6G0k1TIbBp4Rh4T20gFU1211162491h0613111E1g4bRc370bfK31Q11*mR59*by56604*+O62*O7*27*E531613*b8591G52141Gek4bjwVb0eiT2fuD2hjGFtDcn2qTbp2eWA5ij9*btO7Q0AM1U1g2134gF2Pg032132*btJM9b8cyN*bk3922v0cL25ce*bg87c0bBbV*o855*bg6b8i*bfVJ540*bg1CdR2d6*bg4B+iIbDIRe6cD1M331cCO130zLbA587cFtW06C4ba9P6Pbf5cFd0*+C5dK*+7Fbw3*XK5cTLALcyQbVvl0*s67zjC*qAc291J65coLc3.d1PbQ0b9N1710*2bL1*GT*2V*rO722*A5314*642202*S81*O5*C412260*Q6*dGV12010301*2bO6*dZM64*G8c42Pg1*cK532I0Rb21132*bTN4102021bJbF*dBb29*f1bL2*lFF*2cUbGb8cW7bA22xO5ce2810dL*WH9601*2eI8*d2d285A787*67D278*24411603211832187A211iI03130R04040218340bL0cvBbF103*nU74011155*iPd217*dE5*bfH9J*bVbDJ*SRe7*FC2*f8bV7*x8E4*E4*cMN505*I6*bEE*KFQ0*bmAIb9PbgDb7e8b3eR*blT8y3bIdTLczQVvm0VbROzk6PQ61HQPQ310161AQP*2FRSO15Q*4F10*blC9pNb1.vGH*dk295050oU0h60f41iD140V09030f00f70bgK0dV0rL0bwQ0dB0t30oG5fEbUD0b2b4vH0D0GCc+V1hH0fV0oL0bB450d11cT2XyM0bh25iE0dI0S1dP8cG0N0d8331oL0M0e90dC0L1d7390va60bD1b/0*crN6bmJ0b00kL0dyJ0tl63pS2b81r6*cfT8p/S31611mbHbTg96ZD0qJ0sB0.fA0F0i0043gG1zQQ43bDV19*dq88O*dq6HLLbA*dpT98bR*dpT8GE*dpTfH5bR*dpTHN3*dpRVdHk8*dpIb5dH*dpEP80c3b21bK*dpFSfG*dpCJTdH*dp47bbQ3c/NbNO*dm6Hr70bL04cL801cP40*dm1IuqK1bdMc3b78iB4FA1c20bHc5f90d7036*dm1SbD428*dm0AF15*dm2G13A70E*dm29eHb2*dlUHc3*dlQb3d991bC2U*dlQbGe0cDd2b78bJcS*dl69eO*dkVc1fNb3b6310jGb961G211*dkReLgJ*dkOcA811*dkQbQbJK5InJb7mLcA50fF*dk7BqD*dk1OitG0pLbCb1*dhO9Qh5*dhOF0h1*dhOBjR*dhId8o502020b60hmL78787C0F0bF0.c1Pd5M16b10*2bM2*GG*c+SbJ31*A5223111*55*S82*O5*C43*gxE6*dGK*IH2*caVbT71112013*G8j*54308*dqP811G18b30223*c2N5*fO52bIbG*cZ1cN11*lKF*2cT2b5cW9*coI6wIcLceJ06bA22k001*2eJ9*d2d27*cYU8B*I787c83C*244B3i604032222*d+TB23A150bT0ctSbFbG0122*R7102082*iPd2801040+kD*cYLcN03*eVbTA*641*cX5D*cKO414*IF3*dvBKO0vzBPbg5*cY47S*cY48xAbIe*cY4Ac0Ozk7PQ*240*ehQ97QPQ1*ehN6R1*ehN8RPQ*29UOb1*3C0ejLb1.y0dFiJ6i7bC*cbB70c8AbGKG0d56252113b30UQcRAbQ890O3181214bB2bR8bAN1b0bM21H16A1T2bO016212290A1Q02*H54412230U130B*H571212K1M51*bHA72A1U0bR4321390b84bN016121371B*cR5*FBF0C3bN1*H690A1T2c60451017I1bT026C7d2028B6c91R*n761bHJ115A1b390d4JN342122633DB10A3vV2ZI3S2T1U1c0V90bD210dL1b20dMB4BgR4bP91S20bGbD2BK4bFGb68C2UCbODbGJeO21K406022g6bVwGb0c/U2eD0d0VrA5d91ZoK319b01cG1iG03040N440cJ1bIHQHD0b67PCbC3bFDb40c3DC081bD2bI012215110b9451hC711tzG0x1FGF+D0h20eL4bu621153b8240f51rT3c14jT1cD5c6AbH3dQ2bLEb9021A3bDA70bT2b4DG1bC0C2bGD8311cSB6020eTBL3bN1*oOA2634c381020*tB6E1cIHN0cHJhB628R1cIGdACd5Ei0EhL5112*xK5eD62630S9b8613809AbEFg67g7717cIL1DdQ530111610c241114kR39110bG634N0fh506Elg8Hco04bR6baO01bM73cH0B1tfB1et1bD2MqU4358726U3eK2bZRbM4bH80E0M41EbkG61G261114d40f06lN0bT3pS3hU1hJ0207150oQ6dD6yfZLhF.ci30bN0228311bI1bQ26121A0bB0bQ2c2*648011bL1bQ010*U6d61113212A0b92bT3bT*V54211191S0E1bQ25*b16A1cB267I1kA1bV0fB1*sC51P1A226L12520A2btO0U0e107711kQ3224115h0*dN6901185eH0bG05*in96T0U04120bS0221031bG781fB0L0ezM1Z/J120cO1bIFeE1bF0bG14122dE121O0bD010dD02150hD1*150zaJ*M4V0bD241dJ0O1bR0bG291D0cT23110fA2V1bQ113*rS8cK27*rO6110d528130dA2601320hD26320dH281*dH51160d701140i5290hN5*C42010eE28340cK0T1bU0g903010g70E0dA07020gL44110kU1C0bG18110qp82dr4bMd81ylJ165.be81frK0bqU312bbmB2*biM74i9*biMbQVbN010474036A1T0bQ04380K1Q021bP041*biLB*H541140K1M510bQ*j358071B1U0bT0C0bI0*tV5125*biJ8*b866051K1S1bP1*d26T0c807210cQ*bi7LbND14*bi7A63151121P142G3D02160F0vV2ZI2T1U1U1c0116802A*biHF2419062gR120bQ0161010276920bGD1U2BK3bG0141050b88C1b0321*bpL613012bQ721eO21C16406031*bjL6C403B*bjOC3dB1ZoK04*bjOEP150eN1*bjL8AbE2bG02321b70c352121C080bF0bJ*bjTAA180hE02040*bjVbLR0bM*bjV72bH321*bk17417bU0C1bK8A320cV22011*bk56037L1bP130b5634c65D*mE5E1cL72210N0cK5104111hE36111R*R5011dA0102510d5*94314i3811i011040eG32140b09b8523809522bEC11g*da86g961510cIL261111*bl5C813010kR1B1bK45010*bl5BB32*bl7BbV3cH0tfO*bl38r02H*bl1cCbG9dO15022bn19e69g69mS9dM945dC9dM*3425dECdJ986d79d867IdD9d0*R4c6JiC9c69wFJXH2hF969M9jC9e0Af5969fM9cM9e6969baM03569g6bI24wMbRcELtMTbl90y90P8E2kN3eA9U71Eb09b7EYX09fS9k05eQ9b*eU5*cG5mM9uyM9pDbCCbOH1kLQb43T080e64gA9ZE7P6b78cB4M5f012F2bDc08bK1U2cB4d87O7b96kA5bG969iMUeU9bA3dG6e6Te09bS9eG97JhR9k*i55lM9d696JcCBn4IcT9uM9cMSh39c69bM9l69d6KbbBdEpg19cj6*hP716qE9i6MkT2xhP9bo6JCJdCObcLbHck09n69pM9hN9wC8e09yNbQ1213cCbC1E+2Ccx39.bG9br6*n2C*3O*mQ99i*65bW69b6*mK69f6*mKFco69v6*kSJbm69c*b45yS9*iH9iM*iFH9n69d6*iF69hM*iFAqoM*i7BqM9xXM9cwK*hMFWL9euM9.fxE2ctFb223dtU*qF5ZvB9wsGbKoC*oR6ibAdEsY52.fI*vM5cjL5lO5dO2e56gP6H8nH9bbLJbdJ9p00buL*tK7Fb90*tKEbeK*tEEZlG5wgHbCc13*sK8bjK*sBb9l0*s6CJlRJbk51nE8X7IWJKsY66yUMzb9*q16fkE8Z1*pDF.b121513A131Q210R010b305030A13030vU080oI5b91bJ*egH7bC1K111D012cA3d60bBDh92bMEV0i51A0eC0dO0dP0m60C0lF0cQ0A1f8E10b53c70cA441dF5fB0t48eN0tD0bC1cE2c71eT212b5AjP1gO1e0615f01A6S2dS3bR4bU1c07B0zSN8J1C1BU1E1tP3T1bbTDcF1V9mJLbV3b01xR311dG0eFbE1V2Bn32492BG0C0d20cQ0Za21iD2d30A0dJ5lS3cM1b8210bH1bF0d1CG1dS3dU1G1hP0ukI1gG9Mb21D*gwA6eL*k2H16mQ2uS0bG0mU0x70g70V0iG8b60dG6c26cP3oH0jU0b20e44bC3fT6dD113dU3bG1cF340*l15O5dB0jA111dI4A110d80hQMd92SCcC0e22hS0i82eR0cS7cJ214cT9gN0cV4bA1u51cACfF0bdG4cXS1otR1e50c1480r82j73k70tfS0hp74cXJ0WU1.cV0h+V1J0bxoU1O2hF0.bD0bkS0bJ0ds10ba50ca95dq1020V140S0nU0J0dF0btmG1b50A0f90dt00jU0.b90bJ0V0dvT010bWU0cn90bN0F0tQ010U0bbU01*2BcG0b0*E9mK01*2Jc0010b10bb5*I7bC*97nC*eaBH21btiU0gP0T*c8F30H*85fA*f75*x85.fR0hWT030S0do801*kjU730.fB0hXC02120P*SGb12*ekE71A131R0c4050E17*WDB0bM*WBc1dG*W8Fy50dS*W2B513j*W4VW21878823223A1019deQ*zI81422028111021A41923101C22nC2bP0fT*zTbIr4620M0K1233213726*W15*jGFb4021*W2b3zJ*zSeKb80bI*x95U*x98lU030b6*xEcKP0I*xFR0btj10gN*xFR*fD63020.b4060G2V0*bq884*ftT62030U0V0oA3CD56101GdL0E*r65B0iA2dM22021gE0A0J1hN071e80l9161hL0dU0e27e40gF0b90g50g12F01225*h66e57151153g51xG9wJ0lD0l40eTb1l1998bc0012B2D*241c50D0b72D2Jb1bU11311A01255*eZC8B1445310bQ14lN4S2hUMAcHcDMt7bCbG2UAmIMbU4V2lL2e9h55l51bEP1cOCgLQF40D1C0L161cR1hJ149b0b590GUBT80FVAb6FjVgo0bVvuGbMrPM91d71eT3A3rT2h10E1tZT0e8b0lDFc01bM7bC3d201220eQ*lADe1616D1jP8bPG221C30bFbCbtQ1sF0w51k17cd60ceLSsWA350ukM0dX3hFA23nJ6MFGcVdJbShLAb62bR52M17T4bSLc130fQcMXA0P0V*4FbSpVbN3bI71D11bw80nF0cnC030dT0o11iEbB4d3CE2E1E1b4Nf0bOSDbB4871E5eQ+O3G3C3gP6B40FB4bN896b78T2B41E8b7kN8D2C3A3bO104F2B497eI1cRA*tH5dT3bh90dR0pI1pI170hL0i70s50cmR0cg4b1bbXM0vo30dC0eQ0gR131h/M3bqyU0cnG0.cU010c70604030q9*v8Ebi20fzK*s3BeeS1Zt3*nL6+G0E1uc6GXR010f20bZaN4.bB0G2bT010bD040b50V0xU0qF2grR*u28eB0b7460c445140202070V12010ViBb01cQ0UOb85oL090bM7dF0kG42UAFi0e2*u46i1bGK25bt+S0zO012f4*dR8e3063dn11bql00b+G*o5JfzC1coU8.f60204010+H0iA1dV*YIBq30lL0e2510*YA9m7*Y7VwI*Y4Bm3*XA816*XABE011*XA594231*1461U21101UiC74J262cG1TPb76c7*Y67fM181bL8dE1hNbCbBc0hVq0bFL16b6*YHUkG*YEb1X13A110rT2uk9F*XVAD2p403041*XBPba8*X9874G*XBNFd0*XBUbf9*WNGcWS0e10wH*WFVhQ5w*WISbU*WGT00dV0foV0clVAT150bF0dZ00.ib8*549*b4Gb4*b39"

/-- General-category values: aliases, then code points in the range code of `RangeTable.ofCode`. -/
def categoryRows : List (List String × String) := packedRowsOf ""
  ["C,Other", "Cc,Control,Cntrl", "Cf,Format", "Cn,Unassigned", "Co,Private_Use", "Cs,Surrogate",
    "L,Letter", "LC,Cased_Letter", "Ll,Lowercase_Letter", "Lm,Modifier_Letter", "Lo,Other_Letter",
    "Lt,Titlecase_Letter", "Lu,Uppercase_Letter", "M,Mark,Combining_Mark", "Mc,Spacing_Mark",
    "Me,Enclosing_Mark", "Mn,Nonspacing_Mark", "N,Number", "Nd,Decimal_Number,Digit",
    "Nl,Letter_Number", "No,Other_Number", "P,Punctuation,Punct", "Pc,Connector_Punctuation",
    "Pd,Dash_Punctuation", "Pe,Close_Punctuation", "Pf,Final_Punctuation", "Pi,Initial_Punctuation",
    "Po,Other_Punctuation", "Ps,Open_Punctuation", "S,Symbol", "Sc,Currency_Symbol",
    "Sk,Modifier_Symbol", "Sm,Math_Symbol", "So,Other_Symbol", "Z,Separator", "Zl,Line_Separator",
    "Zp,Paragraph_Separator", "Zs,Space_Separator"]
  categoryCode

/-- The table of a general category, by any of its names. -/
def category? (name : String) : Option RangeTable :=
  lookupTable categoryRows name

end TranscriptTest.Unicode
