-- What characters mean for the places where a text can be broken, in Unicode 16.0.
import MetricCheck.Text.Property.Basic

namespace MetricCheck.Text

/-- Between the characters that a reader sees. -/
def graphemeBreaks : List PropertyValue := [
  ⟨["CR"], "NA"⟩,
  ⟨["CN", "Control"], "AJBBBRdRbGNAcbMAguRAdaQACBYGbXPdghJAjGLtuAPbzqUDhwXHbtkzLbFdSeXjGfiL"⟩,
  ⟨["EB", "E_Base"], ""⟩,
  ⟨["EBG", "E_Base_GAZ"], ""⟩,
  ⟨["EM", "E_Modifier"], ""⟩,
  ⟨["EX", "Extend"],
    "bdOeHkPGkDbSBABBBBBAcUKbWUQAdXGCFCBBDbJAbEbAdNKcGIJAYDBIBCBEbRCcHIbQXBbFcDABAEHEADGKBbD" ++
    "AcGABACDIAJAKBbAACBcFAEBEBCCDAbEBDALBcFAEEBBEAUBWFBAcGABBBDIAHCKBbEAcHABAMAJAbOADAcDABCF" ++
    "CBDHBLBbDAcGACBBADCBDHBLBbCBcFBBACDIAJAKBbDAcUAEACCBAIAdDACGMHdUACILGcVBbBABABAcDNBEBBFK" ++
    "BbJJAdYDBFBBCBZBECQDNACBGAPAbbBCbkKDbCCbDBbEBcMBBGIACKJAbTCBAeNBbIAeOCEBJAGCiLBCAcGABGBA" ++
    "BACHGJCAbWbEbXDbWJECbMIMBbGDCFcEABBDABEcEHCBfWCBMBGEAGADBhQcLuEAhNbGeoCCfLAdSbFvIFeBBbsq" ++
    "EDBJbGBdCBkMADAEAZBFAfVBbARNAbMHZKBAbSCbWACDCBCAbKAcPFCBCBMAIAbVAbZABCCBFBBAbQBIAjEACAEA" ++
    "bdzSAbcJPQPoCBxHAiSAfTEcmGCBBFDbOCEAgJBwBDcNEmFBdBDcSKbXDeTAcCObPACBKCbXDCBHAcJCbKEBHcKA" ++
    "MBcAIBAIDCAdRCCDGACAgBADHVBcFBBABAMAJAOGDEcPACFBACABCECBAOBdHHCCBAXAdDACFBACABBBBjBACDGB" ++
    "BBbBBdHHCABBeCABACHdXABACDBEjZIBBjLAKDEAfODCBEAbGJbOFCDIAJFCCbUMBBpQGBFBAdEVCGBBBBeSFDAB" ++
    "BBGBAcUBDABAnJBLBcAEFCXAhxTAGOqyYLDCdsAEcHGboIAcLDdDALBbdaXBgyZbTCWuWEDFIHCGbEDfSCcyDcCE" ++
    "bXIAOAWEBOcaIGBQCGBBBEdWAgEGoLAcJDtODjUBbcIGeFGebGEbsxyUdReYjF"⟩,
  ⟨["GAZ", "Glue_After_Zwj"], ""⟩,
  ⟨["L"], "glKdRcfoQbC"⟩,
  ⟨["LF"], "KA"⟩,
  ⟨["LV"],
    "cndOAbBAbBAbBAbBAbBAbBAbBAbBAbBAbBAbBAbBAbBAbBAbBAbBAbBAbBAbBAbBAbBAbBAbBAbBAbBAbBAbBAb" ++
    "BAbBAbBAbBAbBAbBAbBAbBAbBAbBAbBAbBAbBAbBAbBAbBAbBAbBAbBAbBAbBAbBAbBAbBAbBAbBAbBAbBAbBAbB" ++
    "AbBAbBAbBAbBAbBAbBAbBAbBAbBAbBAbBAbBAbBAbBAbBAbBAbBAbBAbBAbBAbBAbBAbBAbBAbBAbBAbBAbBAbBA" ++
    "bBAbBAbBAbBAbBAbBAbBAbBAbBAbBAbBAbBAbBAbBAbBAbBAbBAbBAbBAbBAbBAbBAbBAbBAbBAbBAbBAbBAbBAb" ++
    "BAbBAbBAbBAbBAbBAbBAbBAbBAbBAbBAbBAbBAbBAbBAbBAbBAbBAbBAbBAbBAbBAbBAbBAbBAbBAbBAbBAbBAbB" ++
    "AbBAbBAbBAbBAbBAbBAbBAbBAbBAbBAbBAbBAbBAbBAbBAbBAbBAbBAbBAbBAbBAbBAbBAbBAbBAbBAbBAbBAbBA" ++
    "bBAbBAbBAbBAbBAbBAbBAbBAbBAbBAbBAbBAbBAbBAbBAbBAbBAbBAbBAbBAbBAbBAbBAbBAbBAbBAbBAbBAbBAb" ++
    "BAbBAbBAbBAbBAbBAbBAbBAbBAbBAbBAbBAbBAbBAbBAbBAbBAbBAbBAbBAbBAbBAbBAbBAbBAbBAbBAbBAbBAbB" ++
    "AbBAbBAbBAbBAbBAbBAbBAbBAbBAbBAbBAbBAbBAbBAbBAbBAbBAbBAbBAbBAbBAbBAbBAbBAbBAbBAbBAbBAbBA" ++
    "bBAbBAbBAbBAbBAbBAbBAbBAbBAbBAbBAbBAbBAbBAbBAbBAbBAbBAbBAbBAbBAbBAbBAbBAbBAbBAbBAbBAbBAb" ++
    "BAbBAbBAbBAbBAbBAbBAbBAbBAbBAbBAbBAbBAbBAbBAbBAbBAbBAbBAbBAbBAbBAbBAbBAbBAbBAbBAbBAbBAbB" ++
    "AbBAbBAbBAbBAbBAbBAbBAbBAbBAbBAbBAbBAbBAbBAbBAbBAbBAbBAbBAbBAbBAbBAbBAbBAbBAbBAbBAbBAbBA" ++
    "bBAbBAbBAbBAbBAbBAbBAbBAbBAbBAbBAbBAbBAbBAbBAbBAbBAbBAbBAbBAbBAbBAbBAbBAbBAbBAbBAbBAbBAb" ++
    "BAbBAbBAbBAbBAbBAbBAbBAbBAbBAbBAbBAbBAbBAbBAbBAbBAbBAbBA"⟩,
  ⟨["LVT"],
    "cndPbABbABbABbABbABbABbABbABbABbABbABbABbABbABbABbABbABbABbABbABbABbABbABbABbABbABbABbA" ++
    "BbABbABbABbABbABbABbABbABbABbABbABbABbABbABbABbABbABbABbABbABbABbABbABbABbABbABbABbABbAB" ++
    "bABbABbABbABbABbABbABbABbABbABbABbABbABbABbABbABbABbABbABbABbABbABbABbABbABbABbABbABbABb" ++
    "ABbABbABbABbABbABbABbABbABbABbABbABbABbABbABbABbABbABbABbABbABbABbABbABbABbABbABbABbABbA" ++
    "BbABbABbABbABbABbABbABbABbABbABbABbABbABbABbABbABbABbABbABbABbABbABbABbABbABbABbABbABbAB" ++
    "bABbABbABbABbABbABbABbABbABbABbABbABbABbABbABbABbABbABbABbABbABbABbABbABbABbABbABbABbABb" ++
    "ABbABbABbABbABbABbABbABbABbABbABbABbABbABbABbABbABbABbABbABbABbABbABbABbABbABbABbABbABbA" ++
    "BbABbABbABbABbABbABbABbABbABbABbABbABbABbABbABbABbABbABbABbABbABbABbABbABbABbABbABbABbAB" ++
    "bABbABbABbABbABbABbABbABbABbABbABbABbABbABbABbABbABbABbABbABbABbABbABbABbABbABbABbABbABb" ++
    "ABbABbABbABbABbABbABbABbABbABbABbABbABbABbABbABbABbABbABbABbABbABbABbABbABbABbABbABbABbA" ++
    "BbABbABbABbABbABbABbABbABbABbABbABbABbABbABbABbABbABbABbABbABbABbABbABbABbABbABbABbABbAB" ++
    "bABbABbABbABbABbABbABbABbABbABbABbABbABbABbABbABbABbABbABbABbABbABbABbABbABbABbABbABbABb" ++
    "ABbABbABbABbABbABbABbABbABbABbABbABbABbABbABbABbABbABbABbABbABbABbABbABbABbABbABbABbABbA" ++
    "BbABbABbABbABbABbABbABbABbABbABbABbABbABbABbABbABbABbABbA"⟩,
  ⟨["XX", "Other"], ""⟩,
  ⟨["PP", "Prepend"], "chCFiHAbXAoUBdCAbrNAdugKAPAjKBuFAcbLABAmKFbaYArBA"⟩,
  ⟨["RI", "Regional_Indicator"], "hgoKZ"⟩,
  ⟨["SM", "SpacingMark"],
    "dkTAcDACCIDBBbYBcHBGBCBcCAcGCcOAcGCIABBcBBcIAGBCBeKABBDCBCcACcJDcJBcGACABBbUAOBcHBFCBCc" ++
    "BBcYBGGTBcLAeXAfIBcLAgVAJBZBbSAcsVAHHBBnIDCCEBBFiQBcGABAVFfPAcFDcMAbEAEBcLACCBAcBHIBgPAV" ++
    "AcasHBCAdKBbYPfMAbWAbWBEBCBeHBCBYAgBACBFAjDBBBBBBAblxJABAeXAbTCEBeLAYBcHAbWCJAOAdPCDBgQC" ++
    "bFBcHABDCBCBVBdHBPABBdZCIBDAeDBGABBBACAjEBGDCAeJCIBBAeFABBeGAHAkBCJAjOEBBHABAfMCIDEAdGAb" ++
    "DBcKApRAOAeCAHACAiFEEBBAnMBMAbWBIByzACfjGcC"⟩,
  ⟨["T"], "grWdJcwxNbW"⟩,
  ⟨["V"], "gpCcTcwzWWcerCADD"⟩,
  ⟨["ZWJ"], "mdPA"⟩]

/-- Between words. -/
def wordBreaks : List PropertyValue := [
  ⟨["LE", "ALetter"],
    "cNZGZbVAKACABAFWBbEBsLGbHeIEBBCDBAGABCBABTBdEBfIIgJBbLCDBABbOBAeAAbSbQbJBBdUBAPBHBKCCAP" ++
    "BBbDbDdKLAYbGJBEAFVEAJADAXYHKFXBFRbPcGcBDASAHJPPEHCBCVBGBADDDAQANBBCOBKAIFEBCVBGBBBBBBbF" ++
    "DBATCQIBCBVBGBBBEDASAPBXALHCBCVBGBBBEDAbEBBCPARABFDCBDDBBABBDBDCDLWAcAHBCBWBPDAbACCACBbE" ++
    "AEHBCBWBJBEDAbFBBBPBRIBCBbOCAQAFCICYFFRDXBIBACGmBAcLHBbJbBEkPbLBAFACbQBmUBDCGBABDCbOBDCb" ++
    "GBDCGBABDCOBcEBDCcObLPQdHCFDxVCQBZFcWDKHRNSOROMBCgTdKHECbHBAFcRKbEiRWjEbURHcCbDNBKbRbAbJ" ++
    "bPCKbJCKFbQCCbPDBFBBDAFhJcMkRCFCbLCFCHBABABABbECcABGBADCBGDDCFEMFCBGeMANAQMdXAEACJBADEGA" ++
    "BABABDBKCDFEEARbObfHbZcrUiUGDDBMbLBAFACcDHAQWJGBGBGBGBGBGBGBGdCAsBAcBBhSbQBdPRbFbptObsUc" ++
    "PbTCkIDPKBUbUQbECdBYhPCBBABHVPBCBDBWbDbZObXcKFDABBLbBKWZbCHbUbCAbWbOXCBHfSKHCMFCFCFJGBGB" ++
    "cFGeKbDqnRMWEbWngUGMEcEdTbHnYScLCcBbOLeMEBfEbKZGZcRbEDFCFCFCCbJLBZBSBBBOCNbIeScRcAkHbCDb" ++
    "WbVbFNbDFbLKbDCbJEHBEbQgBSbJEbJEbNIbZMKBOBGBBBKBOBGBBDbZMlYJVKHYFBbPBIcRFCABbRBBDACWKWJb" ++
    "EcNSBBKVKZcScDGBcMAPDBCBbCbQbCDbCbJHBbBbBcBKVKSNReGcUcDbYNbYNbJbMbBJWjQbPGBQCcHbCKAIVbQR" ++
    "bUUbBWMcAcFBCANbSbGYbAbJbDACAIbIDAMbVODVABAbJRBYTBcLGBABDBOBJHbUbMHCBCVBGBBBEDASAMEbEJBA" ++
    "CABbLBAZABAbScASDUCbEbVUBBAhCbUbPDbKbVUAcHbQNAmPbReMcLbFHCACHBBBXPABAdQHCbMQABAbCAKbNHAV" ++
    "ALbTTAScUhRbGbFIBbKRAbXbDeIGBBBbLVAZFBBBbFOAmPSPABMBbHeUAdBbjLdYeGRhNdxKdSPbpFRFZfxQFwKk" ++
    "dDbDcpUvWHbERdARbDSbVQDbFUFSqQbSiDcLeYcWFAcOMcMBBAbcvKeCFMDIHJiwKdGBcSBBCACBCDBLBABGBcMB" ++
    "DCHBGBbBBDBEBADGBnBCYBYBbEBYBbEBYBbEBYBbEBYBHcsYbEGFkBcJfQbSKGQAmJbDSbRsQbBiUbDCAtBGBDBB" ++
    "BOBhOcHcPHAbuIDBbABBBACABJBDBABAGAEABABABCBBBACABABABABABBBACDBGBDBDBABJBQFCBEBQyEZGZGZ"⟩,
  ⟨["CR"], "NA"⟩,
  ⟨["DQ", "Double_Quote"], "bIA"⟩,
  ⟨["EB", "E_Base"], ""⟩,
  ⟨["EBG", "E_Base_GAZ"], ""⟩,
  ⟨["EM", "E_Modifier"], ""⟩,
  ⟨["Extend"],
    "bdOeHkPGkDbSBABBBBBAcUKbWUQAdXGCFCBBDbJAbEbAdNKcGIJAYDBIBCBEbRCcHIbQXBbGcCCBRBGKBbDCcEA" ++
    "BGCBCCJAKBbAACCcEABEEBCCDAbEBDALCcEABHBCBCUBWFBCcEABGCBCCHCKBbEAcHEDCBDJAbOEcDABGBCBDHBL" ++
    "BbDCcEABGBCBDHBLBPAMDcDBBGBCBDJAKBbDCcSAEFBABHSBcJACGMHdUACILGcVBbBABABAEBbXTBBFKBbJJAdW" ++
    "TXDECBCCGDDNLBAKDbbBCbkKDbCCbDBbEBcMbFJAbTCBAeNBbIAeOLELiLEcFJBbCCAbWbEbXEbVQbMIMCbEMcEN" ++
    "bWTfWCBUEAGACChQcLuEAhNbGeoCCfLAdSbFvIFeBBbsqEDBJbGBdCBkMADAEAXEEAdFBbYRbARNAbMHZMbSDbVN" ++
    "bKAcPNMAIBbTCbYABCCBFBBAbPEFBjCHBBbdzSAbcJPQPoCBxHAiSAfTEcmGCBBFDbOCEAgJBwBDcNEmFBdBDcSK" ++
    "bXDeSCcBObPACBKDbTKHAcJCbKNQBbSAMCbWNIDBBdOLGACAgBLVDcDBBGCBCCJAKBCGDEcPIBACABDBEBAOBdER" ++
    "XAdDTjBGCIbBBdEQeCMdXOjWOjLFBBCDBABBfLGCGDAbCJbOGBDIAJKbUPpPHBHdEVBNeSFDABBBGBAcOEBBBEnJ" ++
    "DJBBAbWGDEXAhxTAGOqyYRdsAEcHGboIABcCHDdDALBbdaXBgyZbTCWuWEDFIHCGbEDfSCcyDcCEbXIAOAWEBOca" ++
    "IGBQCGBBBEdWAgEGoLAcJDtODjUBbcIGeFGebGEbsxyUdReYjF"⟩,
  ⟨["EX", "ExtendNumLet"], "dRAmbFAPBTAdgaOBYCjFA"⟩,
  ⟨["FO", "Format"], "gRAcbMAguRAdaTBbAEbXEBJdghJAjPCtuAPbzqUDhwXHbtkzMA"⟩,
  ⟨["GAZ", "Glue_After_Zwj"], ""⟩,
  ⟨["HL", "Hebrew_Letter"], "cfGbAEDdovYABJBMBEBABBBBBJ"⟩,
  ⟨["KA", "Katakana"], "sgNEdXBDdMBDjGPiAbUBdJczhEcDcouCDBGBBBAlBCbYAOD"⟩,
  ⟨["LF"], "KA"⟩,
  ⟨["ML", "MidLetter"], "cGAeUAbbRAsDAfSAjxYAdgbBAcNAhOA"⟩,
  ⟨["MN", "MidNum"], "bSAOAbgCAuCAfABdQApFAjfFAdgcHADAhBAOA"⟩,
  ⟨["MB", "MidNumLet"], "bUAmcFBKAdgdPAgYAGA"⟩,
  ⟨["NL", "Newline"], "LBeQAlzMB"⟩,
  ⟨["NU", "Numeric"],
    "bWJceWFdMJBAeJASJhQJhQBdCAfBJeOJeOJeOJeOJeOJeOJeOJeOJeOJdSJeOJcSJkSJcSJctQJbMJlOJeYKgJJ" ++
    "GJhAJdIJfEJGJcaeOJbaCJbMJhQJWJdIJpQJbfmCJccKJdfYJGJbeQJcZAPAbIJcIJfOJkSJnEJeOJoKJdYJGTcY" ++
    "JqGJdYJzMJdIJjMJcSJqGJyyGJdmCJdIJfEJuOJbkdYJecQbXdnCJqGJtIJjNJbgVJhbAJ"⟩,
  ⟨["XX", "Other"], ""⟩,
  ⟨["RI", "Regional_Indicator"], "hgoKZ"⟩,
  ⟨["SQ", "Single_Quote"], "bNA"⟩,
  ⟨["WSegSpace"], "bGAimHAdpNGBCdGAfxWA"⟩,
  ⟨["ZWJ"], "mdPA"⟩]

/-- Between sentences. -/
def sentenceBreaks : List PropertyValue := [
  ⟨["AT", "ATerm"], "bUAmcRAdgdPAhFA"⟩,
  ⟨["CR"], "NA"⟩,
  ⟨["CL", "Close"],
    "bIAECbXABAbDABAbTAPAfmSDcuNBdpJHZBKBcCBOByJDbDBbpGFHNdBBbFJpNVcLDbGBbnMNOBCJYASHqLJCHBC" ++
    "czrQBiHBbCPCBQFgNBbXABAbDABABBBBdpoSC"⟩,
  ⟨["EX", "Extend"],
    "bdOeHkPGkDbSBABBBBBAcUKbWUQAdXGCFCBBDbJAbEbAdNKcGIJAYDBIBCBEbRCcHIbQXBbGcCCBRBGKBbDCcEA" ++
    "BGCBCCJAKBbAACCcEABEEBCCDAbEBDALCcEABHBCBCUBWFBCcEABGCBCCHCKBbEAcHEDCBDJAbOEcDABGBCBDHBL" ++
    "BbDCcEABGBCBDHBLBPAMDcDBBGBCBDJAKBbDCcSAEFBABHSBcJACGMHdUACILGcVBbBABABAEBbXTBBFKBbJJAdW" ++
    "TXDECBCCGDDNLBAKDbbBCbkKDbCCbDBbEBcMbFJAbTCBAeNBbIAeOLELiLEcFJBbCCAbWbEbXEbVQbMIMCbEMcEN" ++
    "bWTfWCBUEAGACChQcLuEBhMbGeoCCfLAdSbFvIFeBBbsqEDBJbGBdCBkMADAEAXEEAdFBbYRbARNAbMHZMbSDbVN" ++
    "bKAcPNMAIBbTCbYABCCBFBBAbPEFBjCHBBbdzSAbcJPQPoCBxHAiSAfTEcmGCBBFDbOCEAgJBwBDcNEmFBdBDcSK" ++
    "bXDeSCcBObPACBKDbTKHAcJCbKNQBbSAMCbWNIDBBdOLGACAgBLVDcDBBGCBCCJAKBCGDEcPIBACABDBEBAOBdER" ++
    "XAdDTjBGCIbBBdEQeCMdXOjWOjLFBBCDBABBfLGCGDAbCJbOGBDIAJKbUPpPHBHdEVBNeSFDABBBGBAcOEBBBEnJ" ++
    "DJBBAbWGDEXAhxTAGOqyYRdsAEcHGboIABcCHDdDALBbdaXBgyZbTCWuWEDFIHCGbEDfSCcyDcCEbXIAOAWEBOca" ++
    "IGBQCGBBBEdWAgEGoLAcJDtODjUBbcIGeFGbtcaFdReYjF"⟩,
  ⟨["FO", "Format"], "gRAcbMAjIAglIAdaQACBbAEbXEBJdghJAjPCtuAPbzqUDhwXHbtkzMA"⟩,
  ⟨["LF"], "KA"⟩,
  ⟨["LO", "Lower"],
    "dTZbVAKAEAbKXBHBABABABABABABABABABABABABABABABABABABABABABABABABABABABBBABABABABABABABB" ++
    "BABABABABABABABABABABABABABABABABABABABABABABACABABCCABACADBEACADCCACABABACABBBACADABACB" ++
    "CCGACACABABABABABABABABBBABABABABABABABABBCABADABABABABABABABABABABABABABABABABABABABABA" ++
    "BABABABABABABABABGCACBBAEABABABABcQCbIHBbEEfKABADACDSAbBbIBBDCBABABABABABABABABABABABEBA" ++
    "CACBbZbVBABABABABABABABABABABABABABABABABAJABABABABABABABABABABABABABABABABABABABABABABA" ++
    "BABABABACABABABABABABBBABABABABABABABABABABABABABABABABABABABABABABABABABABABABABABABABA" ++
    "BABABABABABABABABABABABABABABAbWbOeiTAbdJFdfUIBAeNhJcNABABABABABABABABABABABABABABABABAB" ++
    "ABABABABABABABABABABABABABABABABABABABABABABABABABABABABABABABABABABABABABABABABABABABAB" ++
    "ABABABABABABABABABABABABABIBABABABABABABABABABABABABABABABABABABABABABABABABABABABABABAB" ++
    "ABABABABABABABABABABABABABABABABABABIIFKHIHIFKHIHINCHIHIHIEBBGADCBBIDCBIHKCBBeRANAQMeFAD" ++
    "BDAbBAEAEACBIDEAbHPEAbgLZctQbVBADBBABABAEABBBHDABABABABABABABABABABABABABABABABABABABABA" ++
    "BABABABABABABABABABABABABABABABABABABABABABABABABABABABABBHABAEAMbLBAFAbtwDABABABABABABA" ++
    "BABABABABABABABABABABABABABABABATABABABABABABABABABABABABABCfDABABABABABABCBABABABABABAB" ++
    "ABABABABABABABABABABABABABABABABABABABABABABABABJBABACABABABABAEABACABCBABABABABABABABAB" ++
    "ABAFAFABABABABABABABAEABACADABABABABABAWCBABCbfPbQBNGdBbeaIGMEboZZbvHbNfGbJfZKBOBGBBrJAC" ++
    "CBbPBIbxLbYeVVegObFbgjWbFbmmKZbAGBRbAZbADBABGBKbAZbAZbAZbAZbAZbAZbAZbAZbAbBbCYBFbAYBFbAY" ++
    "BFbAYBFbAYBFBAcsYJBTGFkBcJdhSbH"⟩,
  ⟨["NU", "Numeric"],
    "bWJceWFdMJBBeIASJhQJhQBdCAfBJeOJeOJeOJeOJeOJeOJeOJeOJeOJdSJeOJcSJkSJcSJctQJbMJlOJeYKgJJ" ++
    "GJhAJdIJfEJGJcaeOJbaCJbMJhQJWJdIJpQJbfmCJccKJdfYJGJbeQJcZAPAbIJcIJfOJkSJnEJeOJoKJdYJGTcY" ++
    "JqGJdYJzMJdIJjMJcSJqGJyyGJdmCJdIJfEJuOJbkdYJecQbXdnCJqGJtIJjNJbgVJhbAJ"⟩,
  ⟨["LE", "OLetter"],
    "rBAEDiABbJGGLbAABAfDAsQAeObAEEbSbQbJBBdUBAPBHBKCCAQABbDbDdKLAYbGJBEAFVEAJADAXYHKFXBFRbP" ++
    "cGcBDASAHJPPEHCBCVBGBADDDAQANBBCOBKAIFEBCVBGBBBBBBbFDBATCQIBCBVBGBBBEDASAPBXALHCBCVBGBBB" ++
    "EDAbEBBCPARABFDCBDDBBABBDBDCDLWAcAHBCBWBPDAbACCACBbEAEHBCBWBJBEDAbFBBBPBRIBCBbOCAQAFCICY" ++
    "FFRDXBIBACGcGbVBBMGcGBBABEBXBABJBBJACEBAVDbGAcLHBbJbBEeLbQUAQFEDDADBHCEMMAcNbQCmTBDCGBAB" ++
    "DCbOBDCbGBDCGBABDCOBcEBDCcObLPeJxVCQBZFcWDKHRNSOROMBCPbZbJAEAcPdKHECbHBAFcRKbEbXbDCELbRE" ++
    "ZcCWJcAdEAdPbURHcCbDNBKbRbAbJbPCKbJSbQCCbPDBFBBDAbpQDcTCCDekTcDHAQWJGBGBGBGBGBGBGBGdCAsB" ++
    "CZIHECEEdHGCBdLBDFbQBdPRbFbWPtSjtNcMbguEcPbTCkIDPKBcOAQAbGdBbNIeAAGAdZADGBCBDBWbDbZObXcK" ++
    "FDABBLbBKWZbCHbUbCAQEBJKEBbOXCBHUWDADbXBADBCECABAYCCKHCMFCFCFJGBGfPbIbDqnRMWEbWmnCoBCeBc" ++
    "PABJBMBEBABBBBBeDbHnYScLCcBbOLeMEBfEeBcDCbEDFCFCFCCbJLBZBSBBBOCNbIeScRcAkHbCDbWbVbFNbDFb" ++
    "LKbDCbJEHBEeScZdUbNIbZdObZMlYJVKHZBeVFCABbRBBDACWKWJbEcNSBBKVKZcScDGBcMAPDBCBbCbQbCDbCbJ" ++
    "HBbBbBcBKVKSNReGcUhBbJbMFbFAkMbPGBQCcHbCKAIVbQRbUUbBWMcAcFBCANbSbGYbAbJbDACAIbIDAMbVODVA" ++
    "BAbJRBYTBcLGBABDBOBJHbUbMHCBCVBGBBBEDASAMEbEJBACABbLBAZABAbScASDUCbEbVUBBAhCbUbPDbKbVUAc" ++
    "HbQNAcTbAbLGhDbRiDHCACHBBBXPABAdQHCbMQABAbCAKbNHAVALbTTAScUhRbGbFIBbKRAbXbDeIGBBBbLVAZFB" ++
    "BBbFOAmPSPABMBbHeUAdBbjLdYeGRhNdxKdSPbpFRFZfxQFwKkdDbDcpUvWHbERdARbDSbVQDbFUFSqQbSpNcWFA" ++
    "cOMcMBBAbCjbZIbvPbPJnfRDBGBBBlEPAbDCCAODIpFdkUeCFMDIHJnbCAtHbSKGQAmJbDSbRsQbBiUbDCAtBGBD" ++
    "BBBOBhOfEAbuIDBbABBBACABJBDBABAGAEABABABCBBBACABABABABABBBACDBGBDBDBABJBQFCBEBQgoAclfBbG" ++
    "gdTGiNCinPOlbKPxXdqWuVcfYhhYFgfF"⟩,
  ⟨["XX", "Other"], ""⟩,
  ⟨["SC", "SContinue"], "bSBMBbgCAsKAgSBsWAgbXAFAdbEBgaUAdaaWBBBbCBbDBCBCAKAgMBMBcUA"⟩,
  ⟨["ST", "STerm"],
    "bHAbDAcaBAfRCgYAbRCjMAcJABADBlHBcpWBbeKAEBbdTAhQBgBBbTAFAmCBnQDgGBKBCBbDChFBcNBbkUBJCeu" ++
    "XClUANAWBqNAbshWAkKBiTADAoSBdIBdRAfWBfRCfOBjPAbfcWACBcLBgNAbDAcNAedWBbxDEbSDhHBeNDeXCeZB" ++
    "GAQBdKBBBeEAlMBeNBoJBFOeBBjPCtXABAjRBdJBqEBbaQBcWBbcmBBfDAcNBLAvHBlKAbdoGAliMA"⟩,
  ⟨["SE", "Sep"], "fDAlzMB"⟩,
  ⟨["SP", "Sp"], "JABBTAeXAihJAdpNKbKAbVAfxWA"⟩,
  ⟨["UP", "Upper"],
    "cNZdXWBGbHABABABABABABABABABABABABABABABABABABABABABABABABABABABACABABABABABABABACABABA" ++
    "BABABABABABABABABABABABABABABABABABABABABBBABADBBABBBCCDBBBCDBBBBABABBBACABBBCBABBDAHBBB" ++
    "BBBABABABABABABABACABABABABABABABABACBBABCBABABABABABABABABABABABABABABABABABABABABABABA" ++
    "BABABABABABAHBBBCABDBABABABAlDABADAIAGABCBABBBQBIbJACCDABABABABABABABABABABABAFACABBCbYb" ++
    "WABABABABABABABABABABABABABABABABAJABABABABABABABABABABABABABABABABABABABABABABABABABABA" ++
    "BBBABABABABABACABABABABABABABABABABABABABABABABABABABABABABABABABABABABABABABABABABABABA" ++
    "BABABABABABABABABABABACbLehDbLBAFAbbUdHdgLAoKABABABABABABABABABABABABABABABABABABABABABA" ++
    "BABABABABABABABABABABABABABABABABABABABABABABABABABABABABABABABABABABABABABABABABABABABA" ++
    "BABABABABABABABABAJABABABABABABABABABABABABABABABABABABABABABABABABABABABABABABABABABABA" ++
    "BABABABABABABABABABABABABABAJHIFKHIHIFLABABABAIHYHIHIHIELELDMELEkBAEADCCCCADEGABABABDCDK" ++
    "BFAbAPTAbfMZcsUbVbWABCCABABABDBACAICBABABABABABABABABABABABABABABABABABABABABABABABABABA" ++
    "BABABABABABABABABABABABABABABABABABABABABABABAIABAEAbtyJABABABABABABABABABABABABABABABAB" ++
    "ABABABABABABATABABABABABABABABABABABABABAfFABABABABABABADABABABABABABABABABABABABABABABA" ++
    "BABABABABABABABABABABABABABABAKABABBBABABABAEABACABADABABABABABABABABABABEBEBABABABABABA" ++
    "BABDBABBDAFABABABAYAbhaHZbuZbNfGbJgAKBOBGBBcqCbYgBVegObFbgjWbFbmmQZbAZbAZbAABBCACBCDBHbA" ++
    "ZbABBDCHBGbBBBDBEBADGbBZbAZbAZbAZbAZbAZbEYbHYbHYbHYbHYbHAgnLbHdbIZGZGZ"⟩]

end MetricCheck.Text
