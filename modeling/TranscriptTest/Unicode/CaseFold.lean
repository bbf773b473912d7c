import TranscriptTest.Unicode.Age

/-!
# Case folding

Characters that case-insensitive matching takes as equal form an orbit (`K`, `k` and the Kelvin
sign). The script engine in Unicode mode and the identity patterns fold by simple case folding;
the identity patterns know Unicode 16.0, so to them a character that 17.0 added stands alone and
is missing from the orbits of others. Without Unicode mode the script engine compares UTF-16
units by their upper case: a unit whose upper case is longer than one unit, or that becomes ASCII
only in upper case, stands for itself. Orbits have at most four members.
-/

namespace TranscriptTest.Unicode

/-- The orbit tables below, packed together (see `RangeTable.unpack`) and each ended by a `.`. -/
def foldCode : String :=
  "c11c0012*3P22qnU*ROsO*QLcQ2bs4bqEA1blN*cFGgC012*3bG114*OKoW0V1osB01hD114*3c2318*96216*UF*ON*3V*c5U21mA01b001mV*I5mU01mN11mS*h05mL21f201hO01401mH*Q6601gP01h601101mT11k801cszU*64wP*b25f301fA01n7*dO8nM01nF*8421nB*GBK*dD5nD*b66O01nH31821dK42d342266*44*iKbJ226*V4318*mJbS*RO71vd401vcH21vcK01bG*gA5vdP21eE*i75e9*bLEvc001301691bZtM41221bU01dR01bQ31801bZuN*65M41bZtTB1J*94w241b7L12013f63csbDh8ohIbA1cF*f9641iC*vH8N61eD1*w1AbQ*D8oaA01oc3022dS*yP9g0*B732dIfO124bU*xQD22dC022bM122cR014*L6cU*b09oxQ*C641obGU1oaN8*l2b5K41121651fA*YQbFcT*dR6mgS*98Q*bcGUmg8*CB403*746*bEPfO*LFbG1b4124mcA*s8bD91K114*3cC*ZP5P*yGO*3eA21d4012*3dCcW91txK*dMdF11451C21ijP012*3dR216*96v01chl201*3hDclYD*LFceI2cjeQceY601ceXVhF1cfp631bZrJG1bZw6dH1ceY9*zTeD124dM*cJcEB1O*h3eE1I*o9L8*OHA1M0*bAV*OV*hSC*bMQeM*A5Q*MBU*65b*J6T*J921h5*eJO*ObJ116F1b0C1O012E*d25316D1b0jU1v4bD1c4*yDbDJ1AzI1buO*X1cBbzG1duE*/LeDbG1461E1141*95216A1M*x7eF*tL711441A+kD1bYuS1*ctCV*3VJ1b*bKb8e71iG*cx1O*3cNA1M*ceII41A41A*C5d211cP*c1TbWK01bzR*VL41A*chIRQ1bMuyF1bjr0baR1cdM*tKcCg51cmS*xGdLe81iI*dEdAS1jO*dz2bF*bDV*LObxA1dq8*ccReMeT1h*pGc0czQ1ftM*f8cTvm01bky*iDcUc01dO*cDc8+s71bZeU*o5d3.*etL8*3bQ*etGV*3L*yUbVb01hK*et8vC11bP*et2M*M4I*et0bB*yAG31O*esNbx0bI1e5012U1bU*eqACkC1w*eq6zLvzB1bluM*tDcB."

/-- The orbit tables, in order. -/
def foldTexts : List String := (RangeTable.unpack foldCode).splitOn "."

/-- The orbits of simple case folding with more than one member, ordered by their least member,
in the code of `mappingsOfCode`: each orbit is its least member mapped to the others, in
order. -/
def foldText : String := foldTexts.getD 0 ""

/-- The orbits of UTF-16 units under comparison by upper case, written as `foldText`. -/
def legacyFoldText : String := foldTexts.getD 1 ""

/-- Each member of an orbit paired with the next member, cyclically, sorted by the first
component. -/
def orbitSteps (text : String) : Array (Nat × Nat) :=
  let orbits := (mappingsOfCode text).toList.map fun (first, rest) => first :: rest
  let pairs := orbits.flatMap fun o => match o with
    | [] => []
    | first :: _ => (o.zip (o.drop 1 ++ [first]))
  (pairs.toArray.qsort fun a b => a.1 < b.1)

/-- The value paired with a key in an array sorted by its keys, found by bisection. -/
def findSorted (steps : Array (Nat × α)) (c : Nat) : Option α :=
  go 0 steps.size
where
  go (lo hi : Nat) : Option α :=
    if lo < hi then
      let mid := (lo + hi) / 2
      match steps[mid]? with
      | some (a, b) => if c < a then go lo mid else if a < c then go (mid + 1) hi else some b
      | none => none
    else none
  termination_by hi - lo

/-- The members of an orbit after `c`, walking at most `k` steps. -/
def orbitWalk (steps : Array (Nat × Nat)) (c : Nat) : Nat -> Nat -> List Nat
  | 0, _ => []
  | k + 1, n => match findSorted steps n with
    | some m => if m == c then [] else m :: orbitWalk steps c k m
    | none => []

/-- The steps of simple case folding. -/
def foldSteps : Array (Nat × Nat) := orbitSteps foldText

/-- The steps of comparison by upper case. -/
def legacySteps : Array (Nat × Nat) := orbitSteps legacyFoldText

/-- All UTF-16 units equal to the unit `u` under comparison by upper case, `u` first. -/
def legacyOrbit (u : Nat) : List Nat :=
  u :: orbitWalk legacySteps u 4 u

/-- How case-insensitive matching takes characters as equal. -/
inductive Folding where
  /-- Simple case folding as Unicode 16.0 knows it: the identity patterns. -/
  | pattern
  /-- Simple case folding: the script engine in Unicode mode. -/
  | unicode
  /-- Comparison of UTF-16 units by upper case: the script engine without Unicode mode. -/
  | legacy
  deriving Inhabited, BEq

/-- All code points (or units) a folding takes as equal to `c`, `c` first. -/
def Folding.orbit : Folding -> Nat -> List Nat
  | .pattern, c =>
    if addedIn17.containsNat c then [c]
    else c :: (orbitWalk foldSteps c 4 c).filter fun d => !addedIn17.containsNat d
  | .unicode, c => c :: orbitWalk foldSteps c 4 c
  | .legacy, c => legacyOrbit c

end TranscriptTest.Unicode
