import TranscriptTest.Unicode.Script

/-!
# Script extensions

For each script, the characters used with it: those of the script and those whose script
extensions name it, as of Unicode 17.0.
-/

namespace TranscriptTest.Unicode

/-- Script extensions, with the aliases of `scriptNames`, then code points in the range code of
`RangeTable.ofCode`. -/
def scriptExtensionRows : List (List String × String) :=
  packedRowsOf (categoryCode ++ propertyCode ++ scriptCode) scriptNames
  "bqV0b00gqE0dpH0dovU*ezT7y40bC*34caoH*eW6KgM*ezQGfWF*c65btiEtV*ezV9/3RcX4*eW2cQy80r8*eW4DfN0llO1bxgE*eWBbBvS0buK1H1Q*eWIRewH0*YcH6808*xzR62bc/P0*eXBMw7012D0G1liL2491CA32060g309bAdGVbte51iQ4*eY8PbdZF0.fzL19J.cp69bsG9cafM*eYNKfN0hZ2020doJ0bvdE*eZ4Gy021061M1B1edE*eZFHfN0s803110dC1dC*eZS8iN0bvg8R.cai01luEd2*B5*cqK6bw*e+HEvS0c32*yA850hEjF*e+TAdV0d/7Vc30Z/S*e/3F*m25s3cI2bAeWGb611/M0bbzV9f6*e/IRl4Bbhw09X+6*e/Q9*gC5F110O1kyN0ddo3*fa897*fa8C*b95D0capQ*faE9yE0dxH*faHcKbqC0E030cbz*faP8fN0bgH0cyM*fb08F*faU7YQ0df5*M6i30*fA5B010lU020i10cXH0dWU0cZ5cVp30+bB0comG*fc3AfN0cfC1ce/Q*fcAEl41ceYQ*fcEE*d15C120b80b//UQ.ckH1H1u0DegS011U23*mI5YqF*idTTdcR110*sF612*juI7bE020bA7*fe6U2jU*fe6b1cU0g8*fe9J*fF7iR*feERbhjG9.cl50cvYQbP*bK7eR*feSVbhnP9*ff17q1*+B5E2*+95bL*ffCNs91iQ4bQ*ffIAfN0lo8*vdD8F121C*242068fR0eK*dnQA7bObGFBbJ0cOOA4d0U1*fgQ8by07upOlD2d9XB1iQ4YdS1C6yX9HhwU1dnE*fhBb7M*fhBBy71u8*fhDNa*hG6G510413cL27cQ1btk81iQ4A0bD1bmd*fi9bFicQ*bf87F0bxrU*fiLN1A*fiL8F.y50T0lgT*eDBcR33cV*fj5BsxD1iQbUbmcG*fj6bTx69bhk09Wo6*fjEI*rL7yQ*fjJPd+S01160N010bczR5*fk49l69jg10+pU9Wc6*fkFbKC*kgG9030A012*kZC664RE1110F27111b60504CiL1bgA1bZ80da4*flQCbP07hVjF0c10D0GCcJ0bP*fm2CmN0+h87Q*fm77jE0q1*fmAbA*X35dYQ*fmEBai7bCbgC*fmJB*vuFL8.vS0G0ljS1Zg4*fn26*rG5byr5S*W55lP0bwxEP50*bh37*bq16WiM*fnO9bs00pVR20*A5cbdV*fnVbAicT0bWj2V*p97YQ*fo8EdWQ0N0bczT2.bkbG9Xo6*foN8P*foJ7Y40d+H153bzsK*foTPt69ccaG*fp1HeE0fH*fp4HkH0I1Y09d/P08070bczL5YlA*fpPMkH1eY2011906*prB6ZyIcR14*bu69n0bQ22bZjU1*fqNNcl41dxdAbA4*m46doL0bxoFc8*iS7mR*fr8Rel20N0.y102060cC0cakN*frOD*mU7fH0bdT*fs0E*ceF752A0lF0b/wCbA.ga2110cb90d+I0+bT*fsQA*cB7jV*fsUbA*iA9b00eJ0cbrB*ftC9O*ftA8jpI0*ftEQ*u15aYObF*n05eY501021209020bcW2520Wk7*fu9Ol41bhwA9WtMbQ59*H6aR*fuLNdxT0bZhEJ*hC6chF*fuTb2y011*eD5S030cgeEb1E*d86e09bhqGbC.y312110O27111wQ0E120b00AAQ0eF*fwB9fmD01*cuD6b9C1211*g0AXs6bP69.y015130djJ9ci6*fx7F*rJ7qS*fxCVegV0bdaO0WqD010bN1de3bHD0.l/GFpF0cppG*fy4U*dC8uQ*fy9PecL1101*v15201013P0kqC*fySDL1*r36120c09iMbHbZs00A0.vS0Q0bB0bD0cwF*fzQPibD3*eB7eXF0C0F0bczT9Xc6*fWGEy*xWD7010cA0cat1*fWUCvS0dx+JU.dh69ea2*bsN8fR0WuE*fXId5*zB8c09ccaM*fXT7ma115927gV0Xy4*fY76wuQ4*fYB9F0201E36202F111H1413bpG1*fYL7wMbL1014qC1g2VbxiG*fY46bti2*fXTTB11*fXV8219103*qsT65542JdU*fY88gN0q40bkS0mL3eb7B2b01U191116*fX8b9M1N2*dv86Pn2030D0D0L0qHNV0bHEC3f195cVV0*fX478Pd62+G0E1uv49MK2B*fWOC5dV616A4mICbJbCbsq3*fW4b8R6*fW4cNN*fW2bzR"

end TranscriptTest.Unicode
