import TranscriptTest.Unicode.CaseMap

/-!
# Normalization

The four normalization forms of Unicode 17.0. Decomposition replaces each character by its full
canonical (or compatibility) decomposition, Hangul syllables by their jamo, and then puts each
run of combining marks in canonical order, a stable sort by combining class. Composition then
joins each starter with the later marks that are not blocked from it, and with a directly
following starter, into the primary composites. Combining classes are kept as their ranks: only
their order and whether they are zero matter.
-/

namespace TranscriptTest.Unicode

/-- The tables of normalization, packed together (see `RangeTable.unpack`) and each ended by a
`.`: the canonical decompositions, the compatibility ones, the composites and the combining
classes. -/
def normalizationTexts : List String :=
  (RangeTable.unpack
    "g02hTbe002*2DA0204124bQ024cD*QBC028F*GC12A90225*c2G22CF*bOFD22G1*dAd6120E02dF702c0002bV4*A9c*B9RcD*M92*A9A*AIT0*A522bTF*U94*bSJc*BAbN*B8RJ*L98*bKK0*B8Tc9*d892*bAA*g4TVc13229*c3AA*B51*B4B*b5AC*B9bL*B542bRL*b0R3*hCNA*f28PJ*bUM*B8TL*hCKA*bAKbM*MB*i29H*i2K*kATbQ*oQAB*B90*A8VC022D*EA*gKFb12cLU*B5D2bJ0*A5S2d7T*b98F0*A8J*AH3bV7sU03c0*D605*CBM*CBN*C613d708*OA10*C72gA5*i47jTG*d78N0*A9bO*dI90rG*bM8uGbN02nM002bcF032c5*kB9H1*bI7cPKqE*d8A*l28*j39lDS*lBIN3*Kb6J*KJP*Kb6c3b*XCIcNbJ*B562cD9*V8Nc*lH9BbTnK*k2A9*k29bV8*j3An8*N9B5*N5iC1biE01211b402Le5bF1eT91bhR62gQi702boI001bnJ02bnSiD0240*4412C*45028003b0EiTP2bV002O*44D*O4*bC803OEkTP2N*U7BD0*bQ742I0020EbB2e6F020G123D32PE42b8D023102MCA2L0V2c00M25B*b6Ac6E42bN*b79N2d2I0220c92fTH*w27cB0*l8F22bL3*A7k64022002m50*bh6J7*X8IJ*U8kK0*bR6l*uL9cJ7*YPJ6*A8N*wH7*w79j82ZObuM02*24c2*M41*A461eP2iM012b70G2b20sL2bfCboG72G02260b3*+K62*47A*44*C7I*kU5dB2jGi4020bIF2cBbL*U412Q0cJ2i6i022C0b22c3*c3922U0h92rOrK220bF*bSFbM2h0jMbL2d8bH*bL61bIdR2i0hUdN2hIhU62E00202120b70300KdU2i0hO*bG9eD2j6h6120A0300b5020b0l42wIZG92K042A*49C2bL392d2e5120402e2O122082e30H2c2dE*bJLdC2jAhIcwV2fo0fqE1240*4C3280b82cI*E52240*iV660vS2nq1maV*qI9bR*B8VbO*B9S*WU8TJnqD*WV9TbV*bEL*A9J*A9C*c29cHnr7*+5A02*+5AcI*sBG3bVHnrB*dIKT5*A96*e6KbL*BAU*B9E*A8T4*d29cFnsP*d39RD*bXLB*gKITR*bdABt*g95*hMG7*A8TcN*L9C*f4JTbN*k0U7*jMAJnuL*jMBE*CA2F*kELT5*dSIR0*dGB*g8BvF*g8JTcJ*bEKc3nvP*dIAM0*CAbE*D5*gSbD*b/ODO*A95*dGAJnxD*hEBE*d3A1*ckJL5*M92*pNIV1*m8V2*L91*A99*U9c2*gAI3002OcH02640*XI5qC542tR*uCCJ*gF9DnW5*nGB1*CBI*CBB*CAc21*DAbP1*bUbEbQ6*jH9N0*eIB*B9B*eS91nXP*eSbO2bNb*rGBK*B8J0*i6MYT*i6bRF*i5bF0c*uPAJG*eHKb4n+D*cLbQNbL*r4A6*l6Q62btGb*dlU6301oa303020*C42*A9e*B5*vE6*bAAJ*bASc8*bAAb*cKG2*c9DbJ*VHc4*VAc*eIb9c*eIS*cKDd*cKb9d*cKUC*bAAe*h6UeJ*VG*bUDf*eIR12bV01300ofL*742*54e2*l5Eg*gJb9g*gJTGb702*2481*864*8FC*89*b8C23bFb4odL*c76401e9odP04020*F520*CAe*D6*/476*bJCe9*bJb1cC*bJF*d6bIf*d6b2d4*bJF*d6bIg*d6b12GR*mL5307ogP020eA030e7ogT120e*R40oh302bVdN0*n36*mV70e811cG22br1ohT03bqUe3oh*c6Ch*c6Bi302c3e3*oDE0e802ocGe9*G8202oaBdN*eO78on*7402220dK030dJoj902bV3*eGC12ogA1*c4CdH*c4Bo*74*S47M*rL7cS*cC6k*cCI027b602bpHb*G61eF23bwIop3ok*h0Ck*h0Bl302cJ*h08K*h0B1bp921puS012j41ofJ31bvR02Jpc1dE2quUcS0240I240U2dO0*dk3630bK2d2042A02260N2bG01240Q2bE022*44401260M2raL012rc80A2b7002rb1*dm67rcC0022022Q*876*85626*G7E*ODb22bM002C*E4*c45bG2cT*E7b8*bT7c0*I4*49bR1gv6012bZH2csNtW7blF2cwSww21240*4b8226*C9*dcGA61*8SM2d9192fE0D2S0*dEd522eI*i1D32M0bsa11bnuM01sv701tZC01ba301o/D01qjT01cX601bfXE01001bdeL01Yi001+eJ01bY201ekS01kh601erO01dlK01xM01tS01dzE01tiP01brI01bXS01bqA01ifU01gsQ01eiE01bfwT01cp601lyU01drE01kb401l/201bamR01jjM01k+401b*cN5jL01pqU01deE01uv901eeQ01df601cz401oZ401bauF01bd201sE01i+C01daU01dtQ01cnE01erK*K4A01f*T4z601eu601cdQ01biM01swR01p*J4c201dcI01htM01fxM01jWH01y/D*P4A01ovO01cbS01hbN01dgG01j/G01fdA01/bT01byK01gX201bYE01tA01hc001qG01mb801bbxH01wXI01xkT01V01uf001bW401dd601ji801fp901ul101dt601qpO01+m901gWS01ccM01jxA01+I01rfH01s+801utN01h+K01izN01plU01dv701lWK01uvT01cjM01pk601guG01dg201poV01r/C01rsF01eyJ01p+E01pu901iYA01tlD01blM01g001llG01kgC01cyG01eg601dpQ01/nJ01uQ01ct201cxI01dnI01fdI01esO01oi601clQ01ccQ01dE01bgd501kcM*P4201r+M01yoR01brO01h001bjK01fiI01bcC01bu001cu201ccK01bhM01hlE01fdF01ftA01bsE01bat501iO01bbK01oaM01l/K01+G01v+101s*S4yC01ed601ij001emH01sj101ebA01coS01Z601bg401jzC01*dA5t201kO01i+S01cm401f401n001beiP01vc601maC01cq801WZD01jfL01bf801fr*54201evK01cgI01dYO01ch801hlK01fy001hr201Yq901xWC01bbW901kp401hG01cuS01vM01cwQ01v001br401ckA01n*S4bdp101im201WeK*G4eP01goS01in201qu001xzT01X*nA5601fx001rpU01bcfP01+C01ef*54WS01tM01vK*W07ds201ZO01ezE01evC01b401eoM01cr*fF6501nxM01njP01oX601bmG01iw401ikI01cX801beG01XqF01dd801kbQ01drP01fA01x401eZ301bcD01nlU01+jF01WhC01ypN01d501gjU*sJ7na601qv101izI01dgJ01uiE01doT01ha201gm301vlF01gz501ci021bjK11hbK21kjB01quO01bW001bh401c401E01cK01oYE01njF01bpU11dfA11coC21cu001mA31d/401Q01cO01ciO01gnB01cZI01bdqH01tI01gC01xO01bM01gQ01beO01g*P4401ZG01gG01bXO01K01ccC01n801*84g801bvQ01j601kU01/*P4p401k601qG*cC7lQ01/E01cgU01kQ01M01101G01C*gC5d001201l*cmA61tU01bd801bA01dG01t2*d26+G*W36001ZS01clI01iC01wM*b86zK01dA01bkS01i401dkM01rO01dO01XYB01hrhI01hanB21z/301byU01eP01+F01YA01dM01uE01d601bk601eF01e801eI01bhG01fI01j201b001qS01mC01bWK*gB5j0*bD6sM01hC01eB*f36cR01j401e401z001fG01dC01q801rS*jG68*dT6cc6*i86yE*gJ6V01fE01pO*WQ6ddI01cx301hK01h*fF7jA*hS6o401401kM01b201bI*btH6J01yO01+A01qU01lM01o001jI01uK01mE01buQ01jQ*brQ7YG01eA*h56sI01*dL5P*fL6501b101eO*bbP6x*/05001tK*by06nQ01caC01gE01h601iA01c801O*pC6bnE01ciK01gekS01B01fz201hYdF01chM01c201ijb001fiE01ra601hpyV01eMc32cmX9dWwH12bI6A2HK*dkC7BdWwL*cwQ7bH*cW3880220*4K124*KK*O8*8G*4Fb95027C02K002I0ctQ2d/+SblFQ2G0cvL2flUegX61240E2K0e22iOgQ0220qR2bbAbbE020bIbM2dMh4124R82EE22AEbJ2d4D120J020b2hI2pEp2020J120QhR2pUp40220XS2bxOby2r/82bd+Ibd+S020M0*bS5M002L20303D030M0030L2dbV2geIgeI027*J405y/J2br/8br/S022*L5S*542*5FcM2g*i27310eT0320*B52*A5cjrV1gbxP01901I01gzo201gyY301eS01Q01eE*brM6bU*J6bF01od101hizO01gWoP01E*tS6b601gzWA*T4g501okS*bdS7zXS*657*cK5bnF01bo0*dK5jacK01i/+J01S01os7*cjJ7M*biB6A01ow301oX*zE6bM01bC*V52*zO6d401G01I*W26K*b650*35gXkQ01gmXN01okB01bA*L4y8*64xF01C*J6jG01gB*g56c001dK01f801bK01e6*O72010*bF6b*dH6U01v801qV01r201mB01c601cgP01doE01rV01cC*eN6i301kE011*ba76g+dG01gZ/301A*cB5b8*cL5e0*T4uC01e4*A4pR01cU*YF5eT01iS01rxF*jB5saO01dC*hA6/iK*64a9*f36*bI6g/sA*64rH01*bbM8bt101sk*54nU*c85f4*byD6havE*64k1*656*64hF015*l76gA*lI5sX501sYS01cM01bA*n66taD01hus2*64qD01td8016016*gQ6jcmG*64j701hcd6*fL6qsV01rnT*E5tfL01hY/201xs401ibhF*oM5tiF01tl*bp87K01c*U4G01tuD01bR01txG01hde0*64aP01i2018*q95301cS*e46c801R*sO6U*I6*p37M*lD6f8*o16hO01hdX*65YT01e101g*bXK8201heaQ*S8fP01bN01uxL01vdM*r17U01cB01va*M4o601bQ01hfjS*64cD01rA01kT01vsV01vxG01vyH01c701lkS*jN5kwM01g701nb201+n701rtS018*vN5dQ01L01hgh001hYhJ01wl201h901mQ*jB6hf+G*64ZT01gT01pA01wxD01wWA01g2*+U6l*eL5/M*64YF01xm501xqI01hgyC*64v*H5B01xs801cQ01b*XU6hhn401oy301o+U*G4kN*/T5S*C4/P01S*WP6kU01cG*buQ6dB*C6U01Q01hhzI*64+J01pM01dU01ytL01yzG01701hiaK*64nF01xA*cO5001d0*A4YF*bvK6bL*v65zi901zl8*hU6B*yT6gkhG01gjZV01hirS*64mD01hjaU*C4y501*gI7hjXG*64yF*o76hkk001nU*A4jJ*y66WnT01WpI01WoP*vO5WyU01bA*478*bYB6WWT01XaI01hlr4*64pF*64v8*64s301gwcU01gvyT01hmz201bE*cjJ6iieF*ZV5XoO*S4/U01101cE*vE6hnb9*lU50*Y36Xr101Xv401Xu901f001ijyE01hnYT01dS*bcL6X+H01iku601homV*64u8*c26hotB01fO01YlN01Yr2*X75A01hpsQ*cj160*D4XH01YoN01imWI*H4+9*vB5YW301inf*K5WR01Zd301ZeG019*xS7riC*64c501Zg*T4mC01dM*bl06Zr101ipp8*zR6ipoR*64*dgC6vT*64Y8*64WH01gA*ZI5hsnA01eI*A4m5*64uG*64tF01gzoU01hxyJ01+nQ*chR6+pF01+t601tiH01igp4*v05Wc3*bxT6yzL*gE5gzK01bft501/cC01B*bpI6x+J01x/S014*iV5cI01hufC*65D*cwM6eC01eK01iJ01jK01cK*duA6q701hE*bQ5b0*bH5K*d/76jB01itWJ01/YC014*be27xl8*64gB01huYG01iuYT*/R5ivf001s2*A4wD01baoA01O*iJ54*pA6c1*cw87N01jE01f101e6*x36baWT01bbaK01c0*A5F*64gE01*dP5a801hwyV01E*O4kH*64mA01bkdT01jb/601lG01izkF01I*V4ZI01e*cuH7mM01hyf*cC5/P*bZB6fK*sU6hyXG01bXsL01fZdH01T01d8*D4oS*64aJ*df86hXjK*YJ7WvH01fQ*fE6hXbQ*65501rQ01jU*y95fN01xQ01bO*T4+A*64gT01bf/B01bgc4*I4Y001jbz1*I4nQ01Yr101Yx201hZc401nA01jdWN01G01bgwK01h+cK01jevF*64+8*I4iL*yD5bS*D4yQ*64n701bgWT*64/C01hS*fT6dO01bhcV01jhw401iabR01sS*dl66bicT*xG6bihK01ibwE01jjZB01jkaQ01qI01i6*Q4*K4biw9*64W601A*mV5K*65cA01idmA.f01hV720bg011e242e1bfA2*vT5202b5beQ01bzO22bzNbgU*cjV7S13dRpyGiF0300303404dJ2bCp/J02c0c0B2bPeQ*C4082bf0eHbL1beHc43cTwJuG030c0*gW0AFcV020*ho6ARb*GBb42cJ*GBfS1801/S01/*lS7a*zA6C*B4J014V2fHcS02*256020b*D4c9020G21be601/D01E*iO5bbQeL2bh9d9920e7030Ei7cA1bz*cK75020n3020E*coM6BP1B01*jcH6cJ01bQ31b3mD2Y49hD2m4p4*ix57hU*54P0bZQ2ea6dXSdV2i0i0b82c3bH020GbE1g0dA3kEBI13200m21sIdbF1ijL*dkV6i7114*vQ5uI01uD012*3I112*es26Z3014*352*bdR8+U*D5nl201ojV*T8/8*A9911*D6nS01nN*dsE6nm*U6okD018*B7G01nkR01/H*E4U01mx5*e58b4*76vR*/A56*E6tO*85S*lF52D1hCb21+L01+T01/401w901wO01/B01/I014*dE56*cM8nr*54nR01cV*E4G01noB*dXO61014*i6B601K*95nF01nS*B6j4*541*D5bb3*54C*bH8sCgQ2bvDnZN02b4eIj12f5O1200020cU*gjO6hTB30Me3*djA9e2D302*HGN*H7E20D020b61100*3T61p/052p+Voo7C1S020p/D0300p/F81R32qb41*G431266*9542qb7qb7121bo882bUbmB020bR*zQ5SD4qb2p/6c9c971qb3G1b001dI21d9*rOHR01q+E01qZ901b9*K5eA01dR*t6G*bNV11dG*nO5K*pS5+201/1016*bLB4*F6B2c3qd9cN3Ue7qjP0300b001bR02gQqlV13ePb7qjB*Q4C01sQ12nVqm501eH01bT*k08c001lU01nR*F56*I41*c850qkD2*qR8*T50222qn5032Fqn9020G11C31031bF*+B6401bV*B5E0*E5cw*hJCcwJ13c5qpJqo501bxK01P*bJ6Q01ph241qYP*eL62*zG663dHqNqrH030040400Fqs3*D5*dWR8*A7*5C502038*A47*U4400*5B2B001bG020qrF0300qrH020Q01Q*K5N*K6P040*84R02PU01U*S4s1*S5s301N01H012*nA5bO*T4qF*T5q*cDCqN*K6*cD7q*cDCr1*S5r*cDD93dPu9qvBf22q/M+E*vQErF1q/P*sLP2FsdH02*2b42H03J2se*hy16*5b440FEsf7040020*6bJ2H002I70220*4T3F4sg5*eNG*5V2H003Jd29*V5*5dP1bI012*3cAE*cEcDeJbj14q/Md+1*3773q/1*34+R0*t57vdHq5*dtK67hH1wqMjF1/gOcJ1zZ4C1bizT*dsG6S*xU6K01cO*fC5b8*F6biA01cC*b/T6*O8A01dA*86M01jM01fS*zS51*M4*cC7M01Q*k66d801b4*J6bp801eG01YO*cH6G01M*V6eO01ZQ*duV7G*U6b601bC*duD6601wK01K01O*cR5h801G*dJ5hA*N5Q*G5dQ*fqI74*doG6beA01cS*fF6bo8*bI5f*euP7Q*N6cE*M5qM01bG*c+T7/G01e4*e76dK*P6I01E*gG6A*b66cdE01XU01O*J5801G*dQ64*djO6nG*O5v6*f15d4*c05I*b65fM*D5o8*75d2*fM6cU01oQ01E*F6uE01hS*lU5lC01fE*gB6xK*ciD6bd*czE8I01d6*fYJ6M*bF5c2*kI6K01vK*dN8I*hM6U*fA5eU*eiG8bZ*nO7*84*mO7rM*fg37*jT7dE*bO5U*eZ87A*fWC6O*diU6p*fh57n2*kG6A01nO*dhB6hQ01C*I5bWC*e25jO*dp066*hE6gI*d95*i76g*gpP7C*uJ5kE*gM68*ha166*qG6pO*r46E*drJ6K*P5K*g16yM01z0*F5cC*rR6G*E58*x868*kN6A*efN9U*rK6*A68bA1cpxVbL1x/411rsU*cT52d02bjs9*jjT62ygGVcV2cMdSbH1pX5*YJ5kI01kF01kK*F6J*ZC8kM*ZVHjL01b7*E6*z46bF*/GUU*bbGbUb901eN*gtU9*e/29A*98lP01m2*B5m301*A6*bAC4*cHE6*O5K*dbP8kA*gO7*b08cM*b78I*cXSB631+fU*enA7501en4*541*sL7301tsE01tnH01dV*iM6fsG*cX16ehBd03bhj3qpVyZD0304*bnI6*A9*FB*UE*by8Ob3itGy+904040*jj97*CA*IE*b4M*6NBQ007019io6qlFqh3y/706000CIiy3130+pAitV030iO0*645*64en4*75eD*74bnI*75wJ*76G*75qR*74co8*74jYE*74ew6*L5dD*75qN*74vkI*74Zl3*74hmC*74beA*74s1*64jd*D6t*E5pgO*74ncG*S5u7*74tkH*74bZ1*74czI*74doK*74nxQ*74t+3*74+YC*74Yx5*L5bI*74vfN*74zn*E5I001bksE01esQ01dqM01laG83bZtTy/NzaL02bRc5*chLb4*OL1imQ*dpFB2*wAC*w4G2b3qqP0*gxJ7*87*C9*OF*4E570qm9qxNqr5043QkNh8021011+pA*wVGeD01bnI01bwJ*54G01bqR01co801jYE01ew601cdD01cqN01vkI01Zl301hmC*bw17s101jd*94t101pgO01ncG01ju701tkH01ts801ck101nY701XpC01/tT01beC01mxG01vrQ*F4p701biG01mYK01ovH*XVAhZM01e/501lF01efO01d101nxQ01t+301+YC01Yx501cYG02bmoHzhL*mSR*o4V7btnG*cs9b3btnFWdU*ZTB2bEdA03bQMzgB020bN03bH3ziL01yfC*pN6*pTD*3V6*CB2*3E6*3C*RC*bJO*ID2o/4qyQ05pe3rXPbgBba7bdF040bOdMfL050G6DbfV030Ib6054d1Gbf9bgL030cGd3034eJd4064b0e7baLbdTbgR040e670034HS030IcE032fFK*O4AcDbe70408cEd8040f76H0400Cb90440eFe9*F4c0g6040eObU0060eN2dPbhJbbD020f80600bgBbhNbcNbd9*G4d4g6c1M0500SdH0044f7BbQ*R400bf1bcB060f4cReDc7B0404e2d8034Ue5034b1b2040b2b2bi7044fFcNf2050eUb4b2bdV054Hd4ePeD038Id30300E048fJd8*iN5E0e90340d8020fK024c9038Lbg1032bT7060JdGbgVbdFbg504000I05010cGbe30662fJd5c5be*T5Qd4030080301dG066G3bgTbgJbjH0404b6A*cJ5Hb1biPbeH030f0d0056dJd7bdJbeL030b930400SbgB030f2D040f1cUbi10500I3bk304010G0562fFd8bh9*H4eEcL*gC650fHbePbhFbkD030g4F0300G046fFe7bfB*F4dO030bUbN*r45bV050GGbfVbf7042e7dCO020dM*o25hLbl1beRbfT034dTdB05000bi7bfH040f2cUc604600f*lD5c6034fJG048c2cLb*X45cC042bDblHbfD050cKdMg5bgH*nx0660b6biRbk9blPbg5036cV002ylT//C*/69*/AVyiH+vE*drMbH*PNdCbObyfF027b202c5N03c2Ozq302QL022Q02NK0300zuB*ikI8LbF02bpcKbqXM02dXKgy702gqBlnE02goEvG04bbOgWNnzMbcXU02btXJbpmR023002buS*65T0*G7V2024*efK63bObUzrN04G4LzrP02AbP*bNC0c2*bSCc5b603c6d3zrD03bR0003B*54Q0002bwGc8*bG8H002E0029202G*e8FJ0*K5340zwP03J0002KdL033dMzwV*P42*N9J*N4Kzx5034qWGe0*W25zxB02bPqX703bMb1zuH*eHDcMb26*sR5izHztL0600*bN5P023b4*iSI6bP*LI3*nn2962*URbSbv4*C64b8bxLzv9zz702bTe602c2R020204bVqX2zvLzvT030qWBdP*U4cP02bPdE*C4*pH5Vb1*C5S*ce69402c0cE022D*iXQ72zwL020I022bB030EzwH030C002bPcD04c0bJzwLzWJ03bVc4bV*c876c*or488b7031qX6zx103b90002VbbZ*yVb5sX9y/O*yVbI*bIbPd8d0bsxHYuS1b+6014gI1crs6e01ctrN01V01601M31nA01cQX21csZ801cb001cumN*64oE9*C49tYM2bcDdZjJ0206*4530B*G530*H4QS0200C2cq2cq4020b1*qgS6KM02JH81gS01b3016*ekQC*g+68cXTb52cWAdWx501k*fhI6K*ftAB6*CB4*CBB*CBA*ONcM*bTNc3*DB1*dEN2*CBC*bAB4*d8Bb*V6D*D6G*bIC*CB8*CB3*CBI*d8G2bKdWuV020001b7*PA15*CBb8*7420dWvN0200b11c9*b0CK*fEG21dWwH*e98B*eLBE*bOBiD*7432dWzBdWY503000*54kS*B9iP*B9hU*B91*A94*A9G*A5*59iD*GB1i*mEB3i3dWWNdWZ7*geM9bG*648*G62c3c*qzPCbE0208*D64bR*QN2*Q5bI*ICP*I4G*A4H*S5*A82*O7AbH*cEF4bF*S72*SH2*SA0*cKA*ACE*bKF*eCI*IBc5020A*bGCC*94*gIB*hCF*QbH*j0V6*bCPbJcC*h66bG003dcHc7dXaP*beJObU03dcK6dT*oIA6*B96*oNA5*dD86*976*oN8H*QN2*QPbC1*9621*kICbQ*k6F9*lKGbS022b7*cNN6*hR5dT*VM30KdXgL*keFEbE*644*vPL*N44bL*MJ23*sJA*sFK*uVN*E9*v3P2bG*uVb82*xFOC*lU9*fQK*gGF*b8R*tJ8cM026e7*b5I30QdXjJ*k19T*jJ73*862*87G*GFU*sA5*ea48*K68*S63JEdXk1*v2B2HD*t77*rIFD*GN11*bGEE*b8F3*zQIb7021*eeHCbG*dKdH39*b2F14*P663027*n3C23*CA6bE*/C71C0200I36bTdXqL*+Q5H*bo79bI*kJ8bEbH*y2C4*bqH920bQ*br17CbFbP*osE80bO030bIbN*bs4EbI*G74bFbF*S8bGbG*hhF6*I81A*bVGbE*bQA803027*G72bE*cA7*bsPAA034bH9*c450*S9803207*A4A*eH7EbD*c7HbG*d450*b8C01bP*c784bI*B8*dQB2bF*h1BA*bJ6*eH94bH*T62303bD034bI3*I6*hO6*dxD97*fEC0bI2*e2780*Q8c3bDA0343*kM942*A8bE*B8402*G4F*M5G0*hB5003412031*hnO9S10*j48C*e66*HA900035*548*R57bGbP*nP6G03LbGA03K*V46bH*P414bQ03139031bI*iJ5H*d85bF03bJ2*U421003bG0*cF5I*C4HbF*74MbG903JbH*Q9*h66b630b83b1bGiG*dl264bL0iRdXWL0401bNbB04bSbBbQ304VbENbC047b1U104Gb24604Ub1B303b5b2A0I000d+ZJdXZ5dXXB*475*K6Y1*G6WV*KAX3dXYD*O6X908H0dcHdaObQbP0004AiGdaEbGJ1da901xZ*fY06xYF*85bJ01bS*O4E*G43x+Hd++L*44M20001p+C01101pX*cqI6dD*bO5f*ewB6xzE*F59*65*R65012*exTC21xX701402dPdZu70200*491dU*cmD8d5*eV7xZ511Q*dM5A*ldQ6p/601p+N*dRKx/3*gd582*P5U*65111bU01d*h77M42bVdYc902dc0002dbV2120*45*KB*CbC1bT02CdYcR*gF72*86c20*971*I861*hMEc5*c/6H2*IC*CbM*6T0*CcPE*d0cE*g0S3BdYmRdYk3*beB92*AD*l5A41dc5012*3iMuqE*85dhO*jpT8N01pK01H01f1*fxGEdK*A8c7*hs26fJ*fzMe3801fJ*D5ptJ01fV*hkUd03*hkUI212*IbA31in5*B5I02iNd+nT01i*bl06qa811cfI01bx3*bUBcaQ01cMbYI1rpL*J5+L01X601eB11f*ejO66*651*cA5eR*b65ntK*54H01C01eM01e9013*35dM01x7*l/96d*lrR7cC*qG6T01hojG01eXxB01csrV*I5E*64hD*65G01hpaR01xS*jP6aB*54I*T4iS*65L*n58cG013*eU52*64lV*juA6u+I11u+3*khU9J01n*lS9houG01b8briR1hpnP*xScDcJ*VRby61G*i+GeRdH*eTd0114*eQbN*jNeT*gN6216216*96*hIb3E*b4C114*jEL*iPfV*g5C*iP9*3I*hUNG*eEcU*C6*FC318*e8L*X6fF*eTWClE01qC21vK*bSbIH01M*OKpfS*54B*f6cApdI01peP*cyA8O019*odJ6T*fNwQbO01221bWP*fAU*UdLcbG1b/E*b2Q4*9C*3T6*b48crdM01cqWV01i5*M5j201dJ*lq76jT0*dEV6012*jrATeC01dL*kU5K01eO*dE5C*64zVdmI1xC012*nqC61*dwK6B*mE5K*liL6D*cHBb501*lhP6N*lh861*e05J*gJBC*eC8d8*dD6bH01d311eD01811bM21bJ11bQ*cRS11R*cN911G11861R41211bQ11B114*bI7117*bF621B*b9611i011eL*dIF*gGA114*dIb2*g6A11d611hJ*j59*hzS62*j8E11B*j5bI51b3*lPA*cHc3s42daJhyn30203*jiNb453b1bAhyoD*myLdU3x+ODx+O01xZ101U02ThyoH02b8bC11bB*ca1cC2b3hyp7*xh26Cb3020U0355hypF02EPQ2J*fmV8Sb32HFdF2ydEya202dGgG014D1yzC01dp701dyL02rqBhaxJ01oYC01fiS01ymI01ylJ*F4901lxO01fq201fyF01juN01gtU01g/T01kc601jz501vsA01ec501lyK01zXH01clD01nnM01ghT01m001kv9*pp97e201zg701h*bB5YC01hr801vgI01vrP01lsS01pI01th301nhG01dxD*rhN6cM01rm101bu801ZzE43bqtHgfr7hbcL030ms50030i6*64gpQ*74kt0*74hgB*E5i8*74r/J*74jhK071xy601fWFcmU1bjXT*mHR.*zjHWA2gE*jFA5*A9M*A9N*mO7dF8*K7u*hY28w10*zj3b52xMc7*bJ6d7G0*ziVV2fE2*w1A*ziSfS2h2c5*B7c1*L8kB6*A7XU5*iM6ZB*T6kH2cU5*zhN61280*zhFL2c20P2d1E*zhDL2b40P2b3E*zhDkCeM2j8*zgB7lR2y0xU*zf0Ac72eMi0*zeMbC28b6dU2hOgI*zeML269025bAs72beObeU*zc7d32gAcV*B7k5C*zc3bF2kScP*gC72*86mRcO*mOHY6cJ*V6+52*zbLcF2gCcT*B7k70*zbHb52oYKbT*eI6o+LcQ*zbGcQ2gEcN*fUHfEF*jNEpP0*zb3b52o+G*fQ8paHcQ*zb2S2oEbN022*zZ5Boq20*bU8T0*zaMc32p6c*d472E*86r99*zaDfG2g2F*eAJI*yYPG2oXS1*kA7zT*A71*88I*87B*b28Q6*A6pfNbQ*y/GR2gA3*dVb6Y*dV8pgVE*y/3b62gA*gSb7ZG*gS8sP*gSV1c0*96uN*dIJtKF*bVb7vDc5*yZEbH2nuUb7*W1E1e*97nwVcT*b77xE*b7Qv7*b79vM*b7E22nxNb4*U7y6*UHw3*U9wI*d3QyJ*d39z2*fHc1zF*cEA*hVRx*dLAy2*fQHW*fQAWI*UHy7*U9yM*d3N12nWNcR12nX8b712*b15e*bJ5V*f1A*g8RX*g8AXU*b7Se3128*bxNBC*478032ntEeA0220*4bQb20*c1bUd*c1c0nXRdT0203*B4Ue2*74T0029012A502oaA602oc9*b6807120eA42boH502pmO602nXP002H012I*bK5U602od1e9*jM60eA*yx8S2b2732b1e4*iI7d1*Q80722ogA0*ywSL2C712Jb6*ywL9*ctI6cBdN*fCA7b8*ywE742pn8eA02nX5002A0129502ocQ602ofDe912K*fE6mT2o+EP*yuNg0dkU2gzC*yu4hCvgA2dknAwz3*wmPeI26*buC8*wmM7CgeE027*oP5.y0KbJ00bK03bE*850bC04bE01bA03*87AbE041*F52bJ20*45N00bJ02*K601bE12bJ*c76*cJ71*C9L01bM*8DCbJiJ4bJi90bE03bJ00*cA70bF*C55bJ05bE01*S71*S9I*cM6600700800900A00B00C00D00E01F00G00H00I10J10K00L10*c8610Ec87*C4Q00R00SbG0N00O00P*J900T00U01*gO604*e2DEG0Vd56bJ23*O70bJ21bJ1*b4Bb30b0U0*D4*g3F2*iL6*iT6*hNC*G4*8N1bJf06*LA90bEO3bJ18bJ12bJ14bJbB2bEbR*d383bJbA4bJ*oC5D*eTB*8C2*eG7*i18*e98*hQCbS03G0530*RAd7*J5bG0bJbT*C5dE*7DV*B970b100b2d5*Q6D15*74S*B5b3005D3b4dC1b5*C66cC1bER0bE1*46CbN0b700b810b953b82*C4*g455*74bU0bEdG03115cI0bEwF2bJZK15U05eT05A0bJgB0bIeF0bF*kM8gR*97c705K7*wK5EbG4*tNE11bE*q9HH*8625bJ0*vVAMc803F05b60*O76bJbM15bQ03B15c303eO2bJ101*X36*zGA16140bE60bJ31bJg61*c38*nJC*zS5B*q67A0b4*X99I*L7D*XH8*s0CwG*g151*f852101bJ4*d951*tAD11*eE8c/U2bJeD05d0VbJrA0bD*XO7K*Y451bGd914ZoK0bJ49bJb01bJcG1bJiK05b505eN05RHbJbP2bE*H4cV03C05hF0bJ11*k271bJ5*zR6JbK05hM05tzG0My16bJ06*hP6+D0bEh20bEeL4bJbuI*qQ6Jb8*g05100bE405f5*gF7rT3bJc14bJjT1bJcD*beU6Ec61*XEF3bEbH*XFFg005b905E05bP05003c52bJbG15bU03cC05903dA*R5fI03005cG13G05O6bJ34bJcP25dH05303N0bJd3*bC5hR*75dU05dM*B6J05iD*B5i215403eS05cJ05I05cH05n505i20311*F6915qpC05co041bR6bJbfP12tfC01fg61bC02130bH04bC87bE24*vS6U3bJeK2bJdnR6bJ1GbJ26*m9614bJd40*bd47lN*+M53bJpS1bK*iP8hU*iU7hJ0*zB5J71bJ50bJoQ6bEdD5*V43.").splitOn "."

/-- Full canonical decompositions of the characters that have one, Hangul syllables apart, in the
code of `mappingsOfCode`. -/
def canonicalText : String := normalizationTexts.getD 0 ""

/-- Full compatibility decompositions of the characters whose one differs from the canonical
one, written as `canonicalText`. -/
def compatText : String := normalizationTexts.getD 1 ""

/-- The primary composites, each with the two characters it is composed of, in the code of
`mappingsOfCode`. -/
def compositeText : String := normalizationTexts.getD 2 ""

/-- The rank of the combining class of each character whose class is not zero, in the code of
`runsOfCode`. -/
def combiningText : String := normalizationTexts.getD 3 ""

/-- The canonical decompositions. -/
def canonicalSteps : Array (Nat × List Nat) := mappingsOfCode canonicalText

/-- The compatibility decompositions that differ from the canonical ones. -/
def compatSteps : Array (Nat × List Nat) := mappingsOfCode compatText

/-- The pairs that compose, each with its composite, sorted by the pair. -/
def compositions : Array ((Nat × Nat) × Nat) :=
  let items := (mappingsOfCode compositeText).toList.filterMap fun (p, ab) =>
    match ab with
    | [a, b] => some ((a, b), p)
    | _ => none
  items.toArray.qsort fun x y => x.1.1 < y.1.1 || (x.1.1 == y.1.1 && x.1.2 < y.1.2)

/-- The ranks of the combining classes. -/
def combiningSteps : Array (Nat × Nat) := runsOfCode combiningText

/-- The rank of a character's combining class; zero for a starter. -/
def combiningRank (c : Nat) : Nat := (findSorted combiningSteps c).getD 0

/-- The first Hangul syllable. -/
def hangulBase : Nat := 0xAC00

/-- The number of Hangul syllables. -/
def hangulCount : Nat := 11172

/-- The decomposition of one character, fully, by the canonical or the compatibility
mappings. -/
def decomposeChar (compat : Bool) (c : Nat) : List Nat :=
  if hangulBase ≤ c && c < hangulBase + hangulCount then
    let s := c - hangulBase
    let l := 0x1100 + s / 588
    let v := 0x1161 + s % 588 / 28
    let t := s % 28
    if t == 0 then [l, v] else [l, v, 0x11A7 + t]
  else
    match (if compat then findSorted compatSteps c else none) with
    | some m => m
    | none => (findSorted canonicalSteps c).getD [c]

/-- Puts each run of combining marks in canonical order, keeping the order of marks of equal
class. -/
def canonicalOrder (cs : List Nat) : List Nat :=
  let rec go : List Nat -> List Nat -> List Nat
    | [], run => run.mergeSort (fun a b => combiningRank a <= combiningRank b)
    | c :: rest, run =>
      if combiningRank c == 0 then
        run.mergeSort (fun a b => combiningRank a <= combiningRank b) ++ c :: go rest []
      else go rest (run ++ [c])
  go cs []

/-- The composite of a pair in a table of compositions sorted by the pair, found by bisection. -/
def findComposite (table : Array ((Nat × Nat) × Nat)) (a b : Nat) : Option Nat :=
  go 0 table.size
where
  go (lo hi : Nat) : Option Nat :=
    if lo < hi then
      let mid := (lo + hi) / 2
      match table[mid]? with
      | some ((x, y), p) =>
        if a < x || (a == x && b < y) then go lo mid
        else if x < a || (x == a && y < b) then go (mid + 1) hi
        else some p
      | none => none
    else none
  termination_by hi - lo

/-- The primary composite of two characters, Hangul syllables included. -/
def composePair (a b : Nat) : Option Nat :=
  if 0x1100 ≤ a && a < 0x1113 && 0x1161 ≤ b && b < 0x1176 then
    some (hangulBase + ((a - 0x1100) * 21 + (b - 0x1161)) * 28)
  else if hangulBase <= a && a < hangulBase + hangulCount && (a - hangulBase) % 28 == 0 &&
      0x11A7 < b && b < 0x11C3 then
    some (a + (b - 0x11A7))
  else findComposite compositions a b

/-- Composition after decomposition: what was composed (reversed), the starter later characters
may join (its place from the end), and the class rank of the last character kept. -/
structure Composing where
  done : List Nat := []
  starter : Option (Nat × Nat) := none
  lastRank : Option Nat := none

/-- Takes one more character into a composition: it joins the starter when the two compose and
no character between blocks it; else it is kept. -/
def Composing.push (st : Composing) (c : Nat) : Composing :=
  let rank := combiningRank c
  let joined : Option Composing := match st.starter, st.lastRank with
    | some (back, s), some last =>
      if last < rank || last == 0 then
        (composePair s c).map fun p => { st with done := st.done.set back p, starter := some (back, p) }
      else none
    | _, _ => none
  match joined with
  | some st' => st'
  | none =>
    let starter := if rank == 0 then some (0, c) else st.starter.map fun (back, s) => (back + 1, s)
    { done := c :: st.done, starter, lastRank := some rank }

/-- Canonical composition of a decomposed sequence. -/
def compose (cs : List Nat) : List Nat :=
  (cs.foldl Composing.push {}).done.reverse

/-- The forms of normalization. -/
inductive NormalForm where
  | nfc
  | nfd
  | nfkc
  | nfkd
  deriving Inhabited, BEq

/-- Normalizes a sequence of code points. -/
def normalize (form : NormalForm) (cs : List Nat) : List Nat :=
  let compat := form == .nfkc || form == .nfkd
  let decomposed := canonicalOrder (cs.flatMap (decomposeChar compat))
  if form == .nfc || form == .nfkc then compose decomposed else decomposed

end TranscriptTest.Unicode
