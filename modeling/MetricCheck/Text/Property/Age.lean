-- The version of Unicode that a character came with, up to 16.0.
import MetricCheck.Text.Property.Basic

namespace MetricCheck.Text

/-- The versions in order, each with the characters that were new in it. -/
def ages : List PropertyValue := [
  ⟨["1.1", "V1_1"],
    "AtHEbDcEdKHbUBJWcRbABSBEADAFGBABTBbRBGDABABABABRNLBcNBLBbOJcACBCBDbBCHCBcDbLCGBbMBAbMJB" ++
    "IMbAFEXAOADABZFSNNCcTCEBOBbDCJtZCBcACRCEDYQCBHCBCVBGBADDCABGCBCCJAEBBECUHACFEBCVBGBBBBBB" ++
    "CABEEBCCLDBAHOMCBGBABCBVBGBBBECJBCBCCAPAFJRCBHCBCVBGBBCDCHDBCCIBEBBCEKRBBFDCBDDBBABBDBDC" ++
    "DHBCEEDCBDJAPLOCBHBCBWBJBEEGBCBDHBJBEJSBBHBCBWBJBEEGBCBDHBHABBEJSBBHBCBWBPEFCCBDJAIBEJfP" ++
    "cFEbCbLBBACBBACAGDBGBCBABACBBMBCCEBABFCJCBrIbLKbMEAEdLFcPFdDeoKfYFdLGVCFCbLCFCHBABABABbE" ++
    "CcABOBNCFBSCCBIBbUBWbJGDbARKbLRbEcEbAbVNdMVjHOABeQfDbKbBKVfIVfTKdBQTGdHfPDBDCbBBbIBABDDA" ++
    "BGCGObEDXBNddHcDHABdFEFCdPGbNEdPBPdSbCDbJbCbBDbXPLEbUBeOEdUCbEjwBbexXyjQjxTiCGMEGYBEBABB" ++
    "BBBeDbHoAQcLCcBbOLbKDMUEJBSBDECBABfECABdPCdPDFCFCFCCDGBGOC"⟩,
  ⟨["2.0", "V2_0"],
    "ccVQBMUAdmXcTBbGHbAEFBABUDGBAfqNAuHAcatWqnReifYBdsyOBdsyOBdsyOBdsyOBdsyOBdsyOBdsyOBdsyO" ++
    "BdsyOBdsyOBdsyOBdsyOBdsyOhlxH"⟩,
  ⟨["2.1", "V2_1"], "mjSAdgoTA"⟩,
  ⟨["3.0", "V3_0"],
    "tIDbEHCReNEbXAKEdJITAeMADABABABAbEAMAcOAMAbQBCDdOBgAAhSCdUBFAPAbQEBNBbDDbAcBbWcfHBBRDXB" ++
    "IBACGDAEFBABHSCoJAbRAXCHABCBOCAbWbHBEBBBGDDGZqGGBcKBABDCGBABDCbMBABDCbEBABDCGBABDCGBGBWB" ++
    "bEBABDCGBbMBSGbBbJdGMyFJbCDdCfNdODJWOBJGdJIbPcwBAYFdRCbYBdHBcUAdZIkJAeRABbDfIBrPHbHAdIBp" ++
    "IjVccEZBdKMiFbALcICDAnPXwMjtDbfeGbsUDRCPBLBCBAbgsCAbvVC"⟩,
  ⟨["3.1", "V3_1"],
    "bmYBdqqCbFbxWbEBDMbAgZbLCbLczdQjLKbMDgXvAdGBcSBBCACBCDBLBABDBBBcMBDCHBGBbBBDBEBADGBmZEl" ++
    "DEbXpdWcleSbetDuVbpcqTAbEdR"⟩,
  ⟨["3.2", "V3_2"],
    "uYAlQATMeABbCAfRBcFBCBCBbXPnMBmJAdnHBchJMBGLWJTMMBCBBdiXAGEEAHENAcKBbYGdEOgMLjINeUAbEbZ" ++
    "kYTfVJdKHWBdMLCJiONdMbBEPjWtRbzNCdJBIBdQAjGPdDOdDObrdIBQAMADAbgjAcGbjDADPcBBbSAjBB"⟩,
  ⟨["4.0", "V4_0"],
    "uZASCePBcLQdCHFCfVEtWDJIcMCfTBPAbTCbDCqUAhCAcPABAfGAdGCNAcPAcHAeZHhLBefNASJkCbCDLELEADb" ++
    "PCEeDbFbdOeDbcPBiWAzJBlQAkQBeMHOBbrANcrNBbXAbRBdADgLDdVBbFAjtOcLcoqVAcVBqXLBZBSBBBOCNbIe" ++
    "SFCEbSDIwEbDBAfEBbMdBCJbgWFCABbRBBDACAcyuIdInYAbtkdAjF"⟩,
  ⟨["4.1", "V4_1"],
    "vVKkSEgDDjMBgOAbICcPASAcGFjHbDuHAdCAsTAbVAbmNBlJBBAkGAcLAcLAbNAbFAbFAbFAPAbNAXBbFZcgCbP" ++
    "GZGJEBbGbBCBbgMdJzHBBGbXEbDDcBAdCAPAyUKwAAdXBSKFPkKGbgHFjCbUBbUbHeCObSKcBJAQWJGBGBGBGBGB" ++
    "GBGBGbHXEBbjUPgSAbpiTVctOWiZbRbfeAeBbfQJbfAcWuNbJENciSDBBFHBCBbAECEIIIcxpVcRbrAB"⟩,
  ⟨["5.0", "V5_0"],
    "wGNlNCmZAbQFQDgKAtXcGoUBBBbhIBNBfiJcXEbSwLGbZBbcUDdPBcBAxBLbbMAkQDbgJGFDmEMHDbulJDFBlAc" ++
    "DbkoMZFAirGbhUfPdUNDcogIRbqUB"⟩,
  ⟨["5.1", "V5_1"],
    "bhWDCBdJAhBAfKPiSELEbGElQRtDBiOAbJAhYAbDBeEAeEAbABIBUHhHAGAbDBMFDGsXBdTADCcZAFACAHCEFbA" ++
    "cLEBdbEAbbXbQDLcScDDODbYmTbBgZDdMFnSAfJAdQAcBDbyAAVJDDkEAbFDbfFEEbODEkUCBCEFnQbFYDCSbdKA" ++
    "gGTbppOHbzOlNUbFCRIbBfBECeCeGEeYcQJLbMdFLAgEcCJNCJCDbfsUCbhPLcAbTfAbCDbWckDZFAcxsJAlrQbR" ++
    "EdV"⟩,
  ⟨["5.2", "V5_2"],
    "byQBbcCbTCOhLAcZAGAbJBeYAcfPDhLDhGEcQEdEFtSAyGIvOcRgYBbUAcRcKBbCCKGJGNvAbIkGAbaUCfVCcCA" ++
    "xIAbaRBbDCEJBSBAEXdJAbnHEkSANBeDGmHAboCLbplSHbxKbVqAdJmAJgKbBdWbCDcZBKEBeYbBEcOYEiQbTCJq" ++
    "oKWEbWnbBCfgCVBIhEBmMbFeYcBDbCCbAFHeYcUuPbEtTcNlvQbpEctnDKFbECALABACADADEIAHAZABBCAKDCAe" ++
    "HAPbHOIcqlJgdO"⟩,
  ⟨["6.0", "V6_0"],
    "bySBjOAcKAsMbBCAiLBTAGBbBEtMFqRAQATAwBDcVBbiOBdeNbZIDtOAzOHbCAbfJKbcCATABDbDAEBbCAbJABA" ++
    "ECJBcACYAOAOBcdKAOAbpOCbseNBlNBBBOJdCAbdUFCFCFJGBGbemTPhrIcZEbDbheEvWbalBBymGOCNCOBOdCAB" ++
    "KBABBBCBCFHBGBJGIBACBBJEBBJcXZBBbVIVBgSbGPFBcRDTMbKBEVQPcKBABgZBDDcJSXfREBPBCBABABABCBFC" ++
    "DBACDBLEKbWcRcGeLcuqMiN"⟩,
  ⟨["6.1", "V6_1"],
    "ccTAeMAzRABKcDbAtDAbmRBsTAFAbVCebBCMFjWHbRDecQABAbyQBbZAFAcEBhUJbraEAcnNHbJAjIBWAcZBbcO" ++
    "WbdzZBfuUcDGBcrOYHJGcABNcIcUHJbtUcDIJbhkOcQLbUQQbvwIDBbABBBACABJBDBABAGAEABABABCBBBACABA" ++
    "BABABABBBACDBGBDBDBABJBQFCBEBQcAByIBblSDhGAQADABABABADAGBEABBEA"⟩,
  ⟨["6.2", "V6_2"], "mkGA"⟩,
  ⟨["6.3", "V6_3"], "ciEAjyVD"⟩,
  ⟨["7.0", "V7_0"],
    "biLAqIHdPBeOAzRALFcYAeQAHAyPAbZAcYAeXAiUJdkRHvCBpLOvXBjDObbHCbfQGbdTAbqICKZCbFCbHDLBHxU" ++
    "GbtoVFjMLLCCBcRAsUbEeVDgUbVEBbfiVGbhDBTAmHbBbJAbWbQoZbNIbZLAfOlYJVKHjOcKIIrWbFbGbMELfHRH" ++
    "DMGbvJAiAbMdIAMAGTLRBbQeKcGFJHCBHCBCVBGBBBECICBCCJAFGCGDEkHcTIJgKcBCRcCcQLJwKdEMArGcEdfI" ++
    "bPhULFAbalFbEBJEBdSbDCFKcRKJBGBUFSbemAeCFMDIHJCHqkYhOCPczWAbGVVBuMLJAcSAWLbLAFDFLRGcTABA" ++
    "hAAEBcLBEGbDRBbOBdHcSBNbVcSJQMDDfKdGbRLEcDIJGbNIbD"⟩,
  ⟨["8.0", "V8_0"],
    "dhRBbUAuNAnOAkAAcmVACFevOAhVBdyEDbrwVIcoUAjGAbIFmMBxMDMdBbffQBebGSBBFEhGBCPCbTyQbYNbYHF" ++
    "bvDDOEgEGBABDBOBKdIAdBAyJTlEZDOEPerPAiWhNlqQwKcawLKchZzBPEBOjhDCdABdBEbKHjVAcXEjJBfJAwDI" ++
    "dZEcHAcucLinP"⟩,
  ⟨["9.0", "V9_0"],
    "dhUHWObjPAhYAECBGXCfrZIoGAchBDdxCBbtzLAkSAbhqDBbeVbJEbJfaOArHdLBABAtUMccXIBbSBNKbCDbFCV" ++
    "BNbfmVAbFjbOTbdAbgfLGBQCGBBBEdiZcWFJEBddBRfMAbfYAbPAlOBbHCvAFBHIACLBLEObMM"⟩,
  ⟨["10.0", "V10_0"],
    "deMKpLBjSFtSAcGBfyWAjUDbbHAbfZAczAAyCEbcMAbpxNUblpICiqQcTIbZCWBExHGBBBbRDABBBIIJbfgPAyh" ++
    "KkYdDpFyaEFbrPBbIBtZLTAIHBBZASMbMFcEWdcpDlbK"⟩,
  ⟨["11.0", "V11_0"],
    "caYAbNAdYAuFCiDAlMAePApHAeXAenRAboHbQCCfrMCWYEOwPEbcIAbpyHEcyHAIBmMBbkvCBSAbaTbNIJrMbNI" ++
    "bPoHAeOCtGAlEAbaXAiVcHxLAbbEFBBBbKBBBFHJlYYbeaPdMjpIEbcjUTeWGjlWcPbsCAceZAiLDoICbCECDDAB" ++
    "DYKNJHBbKYdSN"⟩,
  ⟨["12.0", "V12_0"],
    "esTAuGACACABFEAHAHBCANAfkHAfpUAcBAwTAbtzMFCEbjRBbmbGWbrKAxCAbcPHCbTCKgDBbzMbXNAhqUIwjKF" ++
    "EAbVIdMBjcWFprCCRDsaQbSDNCJEBoEcFFAcjZAbkNcIbpEAcbGAbKAiVLlDCbVAbXAJAbPFDBKFDHCCbWdFbCDE" ++
    "CFCNF"⟩,
  ⟨["12.1", "V12_1"], "tiDA"⟩,
  ⟨["13.0", "V13_0"],
    "diCJzDAqOAeUAfaJBgjUAbaUCbhOEkpIJbfdGMcySDbQBcBAbfVDbgqQAewXbPBCCBjUbBoPAfEBzAAFBbtMGCA" ++
    "CHBBBbDBBCLJJckKAbejRALBkfXsObQIblwUCdPCcJAbyUBbJBqTBdMAdXAEBbQBGCbDAgMAODPSHGJCNGbPfQBc" ++
    "CbLJcmsJGbhtQhhY"⟩,
  ⟨["14.0", "V14_0"],
    "ciFAwWbEBBGHVASKbhPAbGAeXAdwHAHAJAjFAbaNNeVAbWByLAbbHAeiOAbVAtFKbraTCcyIBOBBABEYCbftDAo" ++
    "RPeXAbUBcvGKBOBGBBBKBOBGBBrJFBbPBIcxXZiWFcYAcgSAfEGbhPPhwYdUwdXdABJbaeWDBGBBlCDliBbTCWJe" ++
    "LvDBeyVbEbhXbEbzDGBDBBBOfqKCkMApCAdEAgSBbSDKDICRCGHIGcncPBgeVD"⟩,
  ⟨["15.0", "V15_0"],
    "exNAsGAdtaKCbfZCdiCJbnAQBbODbBhxDAJbCbvhKAbIAmrATerHFkBcJbHAbpWbPguCAfVCEEdLAzRCPBbKCLC" ++
    "BAOBKBMAOBcthOAbiwSgfF"⟩,
  ⟨["15.1", "V15_1"], "seMDtBAkeiQxX"⟩,
  ⟨["16.0", "V16_0"],
    "dgPAhcGBbVAkFBcwYCffEBbsqVCMCbjoLbZctWbLDbCIBlUCcDAbsLJBACABbLBJBACABDBJBBIBbcVTbvWbHOJ" ++
    "bhGAhyZfxQkzTcFeoKcFlyJAxwIjPGqTitObQEAhcCJEBrNAFAbUAHAVACAJAiRbK"⟩]

/-- The characters that a version has, from it or from an earlier one. -/
def age? (name : String) : Option CharSet :=
  if ages.any fun v => v.isNamed name then
    let earlier := ages.takeWhile fun v => !v.isNamed name
    some (.unions ((ages.take (earlier.length + 1)).map PropertyValue.set))
  else none

end MetricCheck.Text
