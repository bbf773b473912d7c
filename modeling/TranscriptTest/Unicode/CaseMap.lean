import TranscriptTest.Unicode.CaseFold

/-!
# Case mapping

The full upper-case and lower-case mappings of single characters, as of Unicode 17.0: most map to
one character, some to several (`ß` to `SS`). A capital sigma that ends a word becomes a final
sigma in lower case, which depends on its neighbours and is left to the callers.
-/

namespace TranscriptTest.Unicode

/-- The case-mapping tables below, packed after the orbit tables of `foldCode`, which they
largely repeat, and each ended by a `.`. -/
def caseMapTexts : List String :=
  ((RangeTable.unpack (foldCode ++
    "d11bV*vUcCQ1bu4b92buHiN01gQ*dsCcN01jK11hF*oVc7o911oI*cr5U02xApL11x3*dsNcB01sJ01/021m1*O631851C21gA31fR01kA*drG621csXN21hV*c3941A*dnI9*98dM51d5010116*6A*gJO1eP11f0*f7O02W7rO11WE0101*dqTcP81I21ve6*pD5vdR41A*f6Evc2*dqA601voT0*V4*bD5*94201ctbM3*64F*C5I1*C9dE*drF8*K550110*94G*drRC2*I4111vn401vn121471vmA21vlR1*T4U0*64N31ctaG0*64501jC01j5*uC6651iRA1cs/M013f61csbDbB1cH*hQ631iE*vP6I3gBiFiTR1b50*wQ93bMkFkT01b7*z2bI4010*UQbT*d76*jJ5C31S01B01cU11I*nKb101f701E01fG01hJ11bC21g4216bK1bC*cvDd0T*bb8bFf2114*dtRdU216*k7KP11b0*bZVeDbH16*cgUdG2c1d9cW81lvM*dq7e7xO1emT*UFce21h+*YV6K0*bB7001G01dG01cq+G11ceY1hE1cfp8*djADI*Q4B114*3gR02peNnw902OcH0264024002bFeN01pbU51e0*fHeE1K*dk9d9A2nWFodP01nX803nX7odTof3*G4C*G4Boe1of5*G4G*G4Foe5ob7*G4K*h+Hc52p5n+D0220*4QD0*b0UbI0*c1bUd*c1bV1eI*fd96obH02ocH002L012MfD0300obR420fE11G32od*b152od5002R012S*b67c*b6631oe*jK53odVomJon3*V42220dK030dJoj981oeU*b56e7onJoo*b56027M01oeM02oeDok7*bH6k9A2ofAj202of1002bJ012bK*dQ7f*dQ6kH1oyIb11c*gXMbE41b8WB1bt6*cYVcCW61dt*euLeE11d231vcB01811vcI*dxRfBC1of3*fkBdL+iJ1ckx6*gDI*dXOhD01d421cR*e+KU*dXHbNWS1e3S1ckb5*fr7hDtW02jWHdZlJ0206*4530B*G530*H4QS0200C2cp2cp4020b1020C02KM02JHbb91dYZQ*eKcBbgD1cmC*iGdL*iv9dFR1j*jQT*iv9cBy31doM*u6eMdT1j*iv9i9bR1e*cDc9+sE1bZeG*o5d3*iv9cHd51gC*fcKcNb1*hqVc82mBZE11mK*iv2d311hF01hM*E631nA*iv3bG11C*iuU731nC*H56*iuDbR71I*fdVF*ejDR*RQ8*bP8fV01cK01dK*j4bRi111iA*iuUb211k301vmO21vc711m301qI*iuVJj11s*lH6881hO*is2R*uSbJ*RM*irObA51dD21e011B01I21hV*c38n6*eY5bH*gxFd0b4114*irHqMwI1b/e6*cXUhD*in5NJ1eiQ61fXJ*fjQe7k01gq411*3gS91oXB11oY*eNeG*mSK*iqNdQO1b*cFO*ObMe1*764B*B6*38eSB1Q*A5fL012C1gI*E5gD*76KB1gP*B4*v57hCj91ocJ31bvR01hK61qgI*itTiU11u/B01nr401npV21u+M*q28vbL01c001c10*G5c221681vd*m16ve2*ivAfG*ezLgR11cfa50*64C*exQHcssD2*64O*eDb3csu501J01A01M01311d801bD01bC01culC*iwPQ11cT01csr301nqO01cfdK*O6swB0*64I*bPOtdVO1ctf*ixS8*nhRba4")).splitOn ".").drop 2

/-- Characters whose upper case differs, with their upper case, in the code of `mappingsOfCode`. -/
def upperText : String := caseMapTexts.getD 0 ""

/-- Characters whose lower case differs, with their lower case, written as `upperText`. -/
def lowerText : String := caseMapTexts.getD 1 ""

/-- The upper-case mappings. -/
def upperSteps : Array (Nat × List Nat) := mappingsOfCode upperText

/-- The lower-case mappings. -/
def lowerSteps : Array (Nat × List Nat) := mappingsOfCode lowerText

/-- The upper case of a character. -/
def upperOf (c : Char) : List Char :=
  match findSorted upperSteps c.toNat with
  | some m => m.map Char.ofNat
  | none => [c]

/-- The lower case of a character. -/
def lowerOf (c : Char) : List Char :=
  match findSorted lowerSteps c.toNat with
  | some m => m.map Char.ofNat
  | none => [c]

end TranscriptTest.Unicode
