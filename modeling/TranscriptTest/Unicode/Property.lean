import TranscriptTest.Unicode.Category

/-!
# Binary properties

The binary properties a pattern may name, with their aliases, as of Unicode 17.0. The script
engine and the identity patterns know different lists of them: the contributory properties
(`Other_…`) and a few others only the identity patterns know, and `Changes_When_NFKC_Casefolded`
only the script engine.
-/

namespace TranscriptTest.Unicode

/-- The tables of the binary properties, in the order of `propertyRows`, packed after those of
the general categories. -/
def propertyCode : String :=
  "bG975Q5*miAScM0TH*miCVb7D*eWI88Q43TA5bN16Ed5174742A220GbFDd4*miJ8N2IJ*iyI7708b9AB366cB1F124EDI1*iyNC*C4110804114C1A0421*iyVD444121407310H5B21*iz9C*C4130F3L3421*ibGB*cO6914114D0G1*izLI4432123060b8C*izT77121281121123S31*iW39*Q85213D2CC*iW96*L5105374M5121*iWF98*ggK7DbP5660bJ*iWMAI12241060E*iWOA4I4F1b3c3bM1024GbVA32*mkHc03A7JBKCJ*fD51CbJ2IE*mkK8bA5c5AU1B48N*iX4AR4bU2JbI0N1B2bHbJ1E17bJb923AbB1AEbMM*mkTNJb1B*mkVcAHb8zDbJbyM*ml3b41VbF0oL2P87424*ml6bD573dGb7*ml68K1b0ObJCc310bC53012Ab05b2DS3bI1BF0GFA41bM9DIM3c41010O22F23B*mkTGQL*mkTMB*mkRc1c5bKiB*i/58T5bA5*i/3614bA*mkVcK31157*ml1b47b2R305MhQb91131G5bI23*jaCD9c5bB4AbO90DONbIH38b2309bV1391A*jaB7b12063bU*jaEBON3*+VI306056S*jaL9*963113010bCc11213K2Uc12*jaV6L26P5b2bU1030bRbL20c7Q2DL6fPbOd7*mlUBT112123cT72bD251011RbI29Hc750Ic8d77cO*jb96C1610bHT2L1Dc96111bB3*isQ721O5*H4411131*mmK6M9G1b832dF0cFYPd6dEH*jbTNbEbwH*mmOb34bO7Gc0110C69*mmObB40fX1*mmQc5gL*frR95bTb10dG*mn7OL8*mn1H303*mn3c5tKP6P6PdtM*jfOb4bqS0gpH1Q4bN3.b81I010S010*cr37F0dtU3bWT1cmS1A1bM1E1fH0g0335303133*f7648501H539110171V2350912I5194214N2F83K17*ewE6A0*je9653523DmJL251D807530441124401221A521CI1320*wM65162O1B14311214bA271b750103452403410i00q33*kP629bB7nB927btrT551f2*h0D1111bvXN0bP*3A.b7060B0b3*cXU64*ei661pNfV41409110hR6gF050bH*gXAAbC0B5AA10b30AKG0d571913b101*gXI8A4020ONbB2bC07158b9bP*gXHDD0F*gXJdQB8d2028901*gXLbFcU0t0*gXOJ3050bD4bJ0c1*gXRb2708bD*gXSb7c05cI*gXVBbI*lkM6d4nT*diIBC481A0202*qsE610D0GCbJb0cYB1dH2dT0F0d0*bzU60b433450cT5*llVF231910S3cG1Eb1cE0N2d63318*g+DVH0L1c2*g+EA30B*g+GCR0E*85d4492dP*g+O9eJGrTF30CFb2020f90*uIBbF0bD1c30L2q1*g/R8a5*bwD6s*ha3Hb60Q410jR1O0bK*ha9P2040A0bI*haDfSc10iP*haGDgLG*haGF9*ly67p20bVGc0111D*ly99deU113esS*hb579F*hb5Q*bpAFf0DlG0bT3pR4*hb8C90oG6dD7cvF4yda10UcVe0hF*deGE*nz6Cb271U4d00bA32123*nzEb513*nzEH*o/EbK*nzFSHV31zH*cuI7*nzHHTe4d5331cCK512zLbA1D6*nzFbBo3022*w35bg5*nzPd3i5bTceIc3b/CP6P6P.c1PcQ0AM17b0*kZ9c711*ktHbL*kZBb611*Q7*kZBV11*kZBcDhM0bA*kZEJM0C231*gSQ211*kZHgGbG0cyO*y66zA5ce29*kZJeS512*kZLdLGbF22255225B3C4*84j903160bDFJ0zIPbzG*kZElAXQ*bmNB*kZOb6+s7b1*poKEbV1cJ1R2D21104cS1H6Q1*/353*344201120702*I4550A1f60bA*pq0GbE3b0141e4*bwN6Ab6cyO*pq5QfP030G0dHeR201d*bwVb7*tF7R*bw4CdG11117d57*ppSJD2bT9E32241O1bCO1WS0S*ppTc7+rCc3*mqLfD*btAdN*mqLO8*c0L*mqJpOO*pnL7B4B3C4B4*bsRlSvzB*bsHbFc507*dR72322121*cY0bN2*YG92*cXSd39*biCb13*biAcCd18V524cR11290b0*q193146*cY1B7*iVR*cXVgLeK0cO3wV7dS110cJ020b2220hT1wL0dV0b81bE0bM0904*25C0901470H*IBh6*bl56bE0d21uN5ZM1cL4bdG*c+G6dC21A1H1R*pZN6c*c+ViE*mOGF222D28304312304722271F1050C2353111401082D07I2Q1CB0cN3121A112422*bd39A15446bF3050f2111hO1jLeAbj10d72d50j3*boSJ64*boSd8dS0jF0cJ0CgLbA0bL012d0120cV0bHcT3Dd0U1b78bE1lVYs0*bqAc911e4*HD3*gHc0*bqEcHK421X23906cFtk0iD2010291*6413c3*tlBBN*haENC3PMK2B1I1342101e6201fT*haM8361618ba7*btGFpB4*es98*btOGtp73ebIb3bd46E7c05rV*esHbAj32bHcbGbTceIb1bgU*gnCc1s4A5U1VQ2b30dF2*ijJ7cmU9b/a6qTwbp2d/V*sp2C*dbHc5*sp2bU05*sp2F4*M51*6740*dbHK*IJ2*vRV*x3V8*sp2E5*du0b2B0*sq0bC0bK*sq0g9Hb6dtG*spQ7hE*dW66I01*2eI65*d0cU*spLb9kM0b1F40WBPbW6*spAC6020A0*bt7d8*sp8A*dcAeQ*sp6C401*ceBLB*GD*sp2OWS0S*soTbH+sEb1*bj5fE5*ekMJ*bjLL1*bj3lBcW8*tz36*bj9iKbK*cZQ632*843*bj8940kH*bjAnF*nhLMbT0b70F0m60da4*ni0b6fD0v10wC0cW21bsJ1cL4b/R*WgB6ehK0bteRFhF0f00cF8bpf7*yZT85d/V.k90bj90ci3010cb91cg55vP1XxgM*ly1E21pNeU1755H14091hT4gH0bN*iY1Ae3741e614132c3*iXI7b21dU7b99GRbT0G033S0cA0G0dE*58bF2bS0G070dN*NBdD1G0dS0dF0C510dB0D4cB*qYJ9c2211bU0dG011b8144P610A1w12ZK1U0eKA90kR2j40K720bGE2A3E2Bc80F0b68bM1bQ0B1c*iwD7O*qXT6bIbUbGb35Bb5A*iwCDdhG2jT0pQ5d93cV0ZlI0C110S1cI1Eb1d62d6061C0b50eN0RHbP3b40cV0C0b40eL2c13bJ*itF6e01tzG0y1FiE0*isMBxS0beV*isE6tT*is77R5b60Q4mC022*is26g00b90c81dO1bU0cC092d81fI1cG1G0O634cP211D1cV030dR1hR1dU0dM1dJ0iD1i2140eS0cJ0I0cH0n50i2011cH0c10l71N0fhCElgP0*inR7rK1r2GcG1p/U31611hy*poE8*qzH8du2bTg2*pnJ7xU1x06dD212.b306059dF040hYD0C0gO0M0cQ5F1lF1C0f60PA42g70h71A090bQ3149020*iyT62*ZC530318250105BB1*K410I021I5*bWO6502141B1512051*K4K15513*c2625*+88603060A1F*mgR74210B1bG290E0E0lK1oF2J1bJ040bgQ0C0sP010dplA0gA0f01C1E029cBP11N0K028L1fEb12dF21122cI221i61bUB51N7127C0232041D120819052C28220104*eF6cLbGc557233930113029h3B40iRbE191fOdG*lZ2E*kM8h+J0gL0bxjB0bY+MPpR4bnG3ybtCcV.dY/R4.jqT0gR0G3dtdN0bS22022dL12ALI3042127010O0g9140L041fE234cJ0G290B0rV02087609922bO0bT*/K5H21Ch52bA8.iyQ1gD33020q91L1bIBbB0J0D081H1518050L0711*mC57041S0b3*lT7bT2O0E0WR*lK6drfE*l95U*l570O0K02412*l750C81c51LCbA44CG303c6101fQ2bUD31NI0Q1D0cMcKbGc560322333B178*kHVf9*v0g2b7*yzA8E1b59dG*vC7JbNREA*vC5139M6fR*vDD35hT*vFbLG30152CgQb5*yXOJC*lB7cO7EeHi0/T.fN0qO1XE0nP0tM0e90cP0xG0dV0ck30bO0t30mE0c40eY90bB4d7*vmH9pM0+2*vlSBvdR0caG1boB0R*iE570j50dK1pI2bgF0W00tl81beS110E1Yk81bfH0WK2.b0cUb1C1sHdG72546101J1gV7*mtO6bH22bE0*cX969Q45H9B01bDLF1d48061204V2*vm68EbA963N*yYA67E1O501A5VGb9bPbM10138312792S111*vmLD*suE610D1124N50*mtSF2O310792210C0*mtQD3801130F14B70811*uvCD206121F1124HB*vnHJ5011*mtU6LK621*vnS933J2112149791A*mtT9*wD5N2114912EA*vo6711521*L42194P21*mtVA91667922CbF11B78Cb5*y+KJ9923b0N2Q10101D1b3I05024bH7151Cb5bC*sg862O233F4C11251E1b710502lO*muMb25S3P6cL252uS3cO7HDI319*vpM8207711B839696A596*y/EE4*sj37703b9*mv576A3bO213bN*sjJ8D9696DcMbFA3371S9B2V416bN102210DbF815E3bT5bA2AB0D07315122*zaKTE1D251I22181A5N7bGG12Q1C3b1bUeB4uPMALbyJ2lO315bC*muV81F*muVHb1cTb2*nxN8bP6F1cL4d4*muV61cL9bF1YtC3bM9kRKbE40AV2cF258gS*y/P7O24496bN8c3ABOC1b58OB0CT6bF1141211C1A461O1b86121B21710292V1bI*vu7BG27*mvACR4dK1113396*zaBD*fv0Lu9b0F*qj76I13441e64eS2U*fuJCD12*mvEF524bC3cN*nYM8e3S3bGGQ4b39T5b5AT1b44DbAeT296*mvSBBB*mvSbD1c788bGI115b03Q5Qb6bN4J2bE*vvU6A8787bVb0b46B9bL3S2Q5P73C6cG*mw397b9C96b58N81gGU1b93021G588b7b78LB8MH43b6RKM901bLF64T1120CbG*m553EO799b3509H8b212BbJ9017411F1JBH1R31451*vx8BA6bE12D9*bc1G*V4*mx26C*mx0B011F*lq9711b7bN8*C4K1012UbF116*hnE72389f6bE1163202Qb4bI8*Q43B96CJbA101181696JSQ3011409MfPbE9020d4cIC*vzC91411631299c672b98313R0Ab7614790613bDD028Dc879cN03010cOb1E9681b5E015AS3VP07020cB*vWC89965*B44411010796bB49hMI239E1b3813McM0FbHDYQd6dE14B*mz362D*vX0GC239bw6rO7U194cG196T70AbF7EA9161*mzG6Pg6cQ5*zg78bNBCc03E4*mzDbC2020dX0hS*pn0b3dQJCJCcM9Oe7*gl6bDrH*ot796bd*zhKE2941k0TIbB4950oGR49gMT2A40g0*zhUN28bGc3704941yHc3cCbSg2*gnSc1bK*ps8HAfD*ps8c6d6ba5*mZVb3*uy8A*tpIcD10238090A*mu3b8111380*uyB8010C090b8*mu7M1103*H6*muB6*dE9*muF640221080cH*tq6bV3S2T*tq6bO*mu98942b6*mu575*mu384bO*tpVKqC0g3*uzNN*tpVU10bC*mrK820b4*tq3bFlE1sT*tq6cD108*mpR73*mpPE1*oS7E634c3*dbI8242*mq4EH*Q8111hB02*mqAK7*mq8EhL0A3*tqLcE2*tqJR*uXOcUwL*mp78kD0dV*3I*esUB*E4g90fK1bwP1U0eT0uD0h30d51c61emB0+u6*eoL7eE0dC0jL0hM0xsH0bq60b90E0bP0dP1eB0dK0fK0d20e02dH0dV0hS*64dM*R4iD0i31f1*elOD41*9491qpC*pzH9b/v9*95.b*g25bgS0etR0ca91dq50x30btl70f90cN0.l/G129pH*A4I1.l/U1*tcU6hZM03A1ElJ040M0dnf2*qpDJ.iq2*b0R*eM6P401PbF0*rU5*p+5GHdK*p+3741*mzC9142*p+3A8bC1*p+3Ec94d517291I20GbQ2d4EbL40202bDIR4*pZU6cA1e0291*pZKD282123*pZI62B*eI5*pZKF2*wc0973107F*pZME29*skF6F329961*pZOD28*R4724*b86*pZQQ32060E9G*pZR72812137*pZR729G*pZTB*S85213291*pZV7I1214537429A*pZTD3*weJ76921DbP5E19b7*dk0AM2410161923b00N169B*fiM691b34J1H1b390bPc96cD*p+6bF2298E*p+9JL9LB*p+98cJ304129b121A6*p+DDBAb7*dj99b5R4bU1S2A69D08*u+R6cC39H8CdJCbN893bG*lsS7G21b65q*lsKb7F1bH1J0S*ocI7C403BH*njV7256*bR6F*p+C9ctNh468*p+6CFN*p+6Iq52PE1*p+36261cU*p+1TRKbF491dIb5*pZV8bM40JbJCc5A96N301bG2b3CS3c0EA6U1bM9D296M3c8O22F24A*pZMH11296*pZQbH4FGF31O2b041e6J*ZE7AcP*p+5Te80e2S3bGF0V*p+9J296*p+BcQ2240b0*p+F7TP*p+FM896b5341*p+HDb2A08b0VLbAKRM9c6VF9bR70DO796bK19438b3209c4431C*p+H74*p+FFQ5963*/OC1921222060562634B*p+LH7D1TcA5943Uc51089f6bL28N5b2c030B9b6bO796JSQ2E4966fPbQd5c9L*p+JC8C*dg96D*I4RbU808c93*p+HBF9681bC18F9O*p+II8896*p+G95*dfN9*p+I74DAcL*p+KLGLA*p+KAP*dfE96cE196T24BbM93C99*p+S739g6*p+UK1B*p+UbD31ecH9q6*b/3InR*ocCbV2bHq0*cb6EcG*qa7O3D2940k1UHbPoMb9gMbAg5*qa9HB6b9cB49bf6*df1c1djK9ba6*dc7b3vte6hF*+bEnF3A*+bENb8*+bCdU*bxVM*rw7b4r6*rw2A44*+b8bCFb7*+b8fO*rwDH5A*rwDA*+bClVd6dEH*+bFc949*+bFiNma61P8E2+5*/25upVwi0*X75ZiA0D*jODXTmBti*cNb5iaC1.ds04dR4cxG220behQ12011.d1*bxA8b4*ZzOiV*quI8*kaT823*ZW0hQ13*ZW0BfVc10*2eJ*ZzQeBdP*caS6D*ZW1G*kbIC*ZW6H73*j5d2*ZW6cP2e5*FD*f6bT910*ZW4cEL310*rn19*kbVN*rmKIi5*ZWGcA*rm3DfKb1*vuK6V0*vuLEwO220Q122qF2gqD0R2B030D0E3L4B4c1C403144I*ctLB312112153D10c4N1511414V1061EiB83K1cQ0UQ10O0B6nT1C945412134E01025B751bP010T392kGbVi0pV*vw5BN510f20G2T010*vw8JiF*ncDbFfq0*gu7c3*vz76bsK12*eI5031p111230V0.b/oGVqE1b//U*5cC.W50TCs0D*gtNDC16G0d564*f+5630UFd6Ad51381213dA0bSB366JbM12E1152A1T2bQ62121A0*D6*vhD6*XlN8Q71211L1M24*b9891*XlJA2A0b84bP6*veT6B*cF5*D9F0C3*F7*cU6cB*XlBCI0d302511G0f3I9A1b3dEB1023*Xl2GbtK1U*25c2IfS*XkP88gU4bP92JcA1B2bH4bGEbS2U821bPAbIImSb1bw1bJchMV+dK7b21l2080N4*WvN610bP0b64SBbD3bGBb5*XjPJ0bC450hD7tzJ0ccN*gp69yK3c10k11cD2i32bLDbD1B2bD89*goK6BI1bP2bGCE1cS820*goE69N3*lKBcK8*urL8d7C12dAHhD626T1cIE10dAAd7Di1ChN511213010eE62540S9bA413IAbEDg87g7716cJ*XiFB2103*XiH73kS*XiH92qoTGdr0*Xi27T1tfC0iX1*gl3Cbs*gkL8sH0b/8*sn66WF0dqF*ldA6fF0ehU0btrR0cF8Waa70*bcj58dqF.cnU0O0l60O0d*54h80*teQ691d7*L4N0F0cjL0U0ba00501051d50c71baO0eb11+j30dC0voT1er00dK0i80E090d0090201250h00C0hH0i60tP0C0bq30ufE*WZ87ylvDcV.fN0wF0d/18bt80brH1ehD0btt90.ge51ceH0L0dXC1*+XT6pL8*clL8K0dm10dbF*/bOFgJFWGPbYI1+qU1gI0e033*olK6xaM*bnR9wdLbT.cU0XH*bkH61hb00R2B0b03O1E1*bkBH34*bkBB354cB*wy4801421414H2*C461061j23f8110O0H0nT1C8545*bkJBO*bkH91kM*zg3Cbvd*obC6gJ010bvg*uY3c0*bkFc7.il0FW6Pdtd0*tJ6b1EA6Q310Q3b261*qb47404030N0V0hyON8E2I19jHwFf0tLUbdBq0dVm124OF0btiD1i51.94I0d40hY81O1.bq05gN*bexQAcb+Q0F0.b2040e30F0hWS7P1dq70o93D2btr13fT040cQ1.lu0*jkH7.dYp*f850C0G0bk90eJ2fK0bB2hM0bT01031j51bx41yM041y50g61eT1bD050jQ1l23f21A121T2fR1c11Z40N192dfF2jI0D0M1nD0ZhS0iE1h3030lU1cM1cV0eO1eJ2e*yyA76021bR031f9*eE5c10cxK1bhT*ywI61dL3dV2e1160G1cO111dC0jA1dL1lL15Ed91hP2q5010hR1cN1n41vK1cA1sz9*yv761B0r91j80tq60hp80.d91g40iP0U0bK0K0k00d2010gi90bJ0D030e40eT0n50gM1czI0djZ51bI*3b2ce60jH1Q0.b*mo26B130zU080q10bP0c80E01*lG6A10hB1bM517V0i51bhK1fC045jN1yL7*zgAC30b7321*lTB12T2fR4bU*lTH40A01131nC1ZhR1iD2h34*m1AN2eJ2dV0*m3CP213f9*fG9c1020bbQ0bG0be60g70jM1eO5c45cP3ZO*zdG8G*mUD4*mS82C1l633*mUI41mU2bD0u51cA1bjB4rpP*n762A*n7571*n7673.na0*d/09qE*W75A0*6422cbo*vvFLen*d+E8*+W8XIQ*sk39*+WCoTcaE*ch96gaB210bzpGFWaxGhF*cfH8Q*yXTJ*iYJb832*iYJwC122*iYLf1eA6gP*he5896*iYO8*bhGDdT*iZ2+M32*iZ2iI0D*iZ2F0A*iZ2k662*iZ2fL*bz0EdN*byOE*iZF6bN2U*iZHyS"

/-- Binary properties: aliases, then code points in the range code of `RangeTable.ofCode`. -/
def propertyRows : List (List String × String) := packedRowsOf categoryCode
  ["ASCII_Hex_Digit,AHex", "Alphabetic,Alpha", "Bidi_Control,Bidi_C", "Bidi_Mirrored,Bidi_M",
    "Case_Ignorable,CI", "Cased", "Changes_When_Casefolded,CWCF", "Changes_When_Casemapped,CWCM",
    "Changes_When_Lowercased,CWL", "Changes_When_NFKC_Casefolded,CWKCF",
    "Changes_When_Titlecased,CWT", "Changes_When_Uppercased,CWU", "Dash",
    "Default_Ignorable_Code_Point,DI", "Deprecated,Dep", "Diacritic,Dia", "Emoji",
    "Emoji_Component,EComp", "Emoji_Modifier,EMod", "Emoji_Modifier_Base,EBase",
    "Emoji_Presentation,EPres", "Extended_Pictographic,ExtPict", "Extender,Ext",
    "Grapheme_Base,Gr_Base", "Grapheme_Extend,Gr_Ext", "Grapheme_Link,Gr_Link", "Hex_Digit,Hex",
    "Hyphen", "IDS_Binary_Operator,IDSB", "IDS_Trinary_Operator,IDST", "IDS_Unary_Operator,IDSU",
    "ID_Compat_Math_Continue", "ID_Compat_Math_Start", "ID_Continue,IDC", "ID_Start,IDS",
    "Ideographic,Ideo", "Join_Control,Join_C", "Logical_Order_Exception,LOE", "Lowercase,Lower",
    "Math", "Modifier_Combining_Mark,MCM", "Noncharacter_Code_Point,NChar",
    "Other_Alphabetic,OAlpha", "Other_Default_Ignorable_Code_Point,ODI",
    "Other_Grapheme_Extend,OGr_Ext", "Other_ID_Continue,OIDC", "Other_ID_Start,OIDS",
    "Other_Lowercase,OLower", "Other_Math,OMath", "Other_Uppercase,OUpper",
    "Pattern_Syntax,Pat_Syn", "Pattern_White_Space,Pat_WS", "Prepended_Concatenation_Mark,PCM",
    "Quotation_Mark,QMark", "Radical", "Regional_Indicator,RI", "Sentence_Terminal,STerm",
    "Soft_Dotted,SD", "Terminal_Punctuation,Term", "Unified_Ideograph,UIdeo", "Uppercase,Upper",
    "Variation_Selector,VS", "White_Space,WSpace,space", "XID_Continue,XIDC", "XID_Start,XIDS"]
  propertyCode

/-- The properties only the identity patterns know. -/
def patternOnlyProperties : List String :=
  ["Grapheme_Link", "Hyphen", "IDS_Unary_Operator", "ID_Compat_Math_Continue", "ID_Compat_Math_Start", "Modifier_Combining_Mark", "Other_Alphabetic", "Other_Default_Ignorable_Code_Point", "Other_Grapheme_Extend", "Other_ID_Continue", "Other_ID_Start", "Other_Lowercase", "Other_Math", "Other_Uppercase", "Prepended_Concatenation_Mark"]

/-- The properties only the script engine knows. -/
def scriptOnlyProperties : List String :=
  ["Changes_When_NFKC_Casefolded"]

/-- The table of a binary property, by any of its names. -/
def property? (name : String) : Option RangeTable :=
  lookupTable propertyRows name

/-- The canonical name of a binary property, by any of its names. -/
def propertyName? (name : String) : Option String :=
  let key := normalizeName name
  (propertyRows.find? fun row => row.1.any fun a => normalizeName a == key).bind (·.1.head?)

end TranscriptTest.Unicode
