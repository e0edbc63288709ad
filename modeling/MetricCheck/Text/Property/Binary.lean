-- The properties that a character has or has not, in Unicode 16.0.
import MetricCheck.Text.Property.Basic

namespace MetricCheck.Text

def binaryProperties : List PropertyValue := [
  ⟨["AHex", "ASCII_Hex_Digit"], "bWJHFbAF"⟩,
  ⟨["Alpha", "Alphabetic"],
    "cNZGZbVAKAEAFWBbEBrPELOEHABAdIAbDRBBCDBAGABCBABTBdEBfIIgJBbLCAGbObNNBABBBBBAIbAEDbDKFcD" ++
    "BGOdXBHEHECKCCAQbVNdWYbGJBEAFXCSTYHKFXBFIAIbPKLDGGcXBPBCEONSBHCBCVBGBADDDHCBCBBAIAEBBEMB" ++
    "KAECBFEBCVBGBBBBBBEEEBCBEAHDBARFLCBIBCBVBGBBBEDIBCBBDAPDVDECBHCBCVBGBBBEDHCBCBJBEBBENAQB" ++
    "BFDCBDDBBABBDBDCDLEEDCBCDAGAbOMBCBWBPDHBCBCIBBCCACDbCDBHBCBWBJBEDHBCBCIBGBBDNCMMBCBbOCHB" ++
    "CBCBAFDHEWFBCBRDXBIBACGIFBABHSBNcFFGGAbZBBABEBXBABSBCCEBAGAODbGAcLHBbJESEPBbJcPcCBACEQcL" ++
    "KDCbLBAFACbQBmUBDCGBABDCbOBDCbGBDCGBABDCOBcEBDCcObLPQdHCFDxVCQBZFcWDKHTLUMTMMBCBBMbZCSOA" ++
    "EAcPdKHbQFcRKbEBLEIXbDCELbREZcCbBEcKCTbYAXBLCbXbZBOBHbZbPCDKbRBKOcCWCKbJCKFbQCCbPDBFBBDA" ++
    "FhJTbHLkRCFCbLCFCHBABABABbECcABGBADCBGDDCFEMFCBGeMANAQMdXAEACJBADEGABABABDBKCDFEEARbObfH" ++
    "bZcrUiUGDDBMbLBAFACcDHAQWJGBGBGBGBGBGBGBGBbFbVAsBCZIHECEEdHGCBdLBDFbQBdPRbFbWPtSjtNcMbgu" ++
    "EcPbTCkIDPKBUbUFHDeIbNICdYCcOCBBABHVTBbGYbZMcPBAbSFDABCKbGFbINbCDbYBLPAQPKEBcCJNSWDcQBAB" ++
    "AYCCPCDLFCFCFJGBGBbQBNGeSVqnRMWEbWmnCoBCeBbMGMEFLBMBEBABBBBBeDbHnYScLCcBbOLeMEBfEbKZGZLd" ++
    "KDFCFCFCCbJLBZBSBBBOCNbIeScRcAkHbCDbWbVbFNbDFbQFbDCbJEHBEbQgBSbJEbJEbNIbZMKBOBGBBBKBOBGB" ++
    "BDbZMlYJVKHYFBbPBIcRFCABbRBBDACWKWJbEcNSBBKVKZcScDGBcMDBBFHBCBbCbQbCDbCbJHBbBbBcBKVKSNRe" ++
    "GcUcDbYNbYNbNbIbBDAFWjQbPBBDBQCcDADbCKAIVbQRbUUbBWJcRbREKcEJANYXbYRDIbIDAJcLBDJBKABAbJRB" ++
    "bHCAGDcKGBABDBOBJHcEXDBHCBCVBGBBBEDHCBCBDAGAFGbCJBACABbLBJBACABDBBDABAbScNBCBDUCbEcNCBBA" ++
    "hCcBCGZFbIcKBADAcHcBCAcTbACNVGhDcEdZcLbFHCACHBBBbDBBCBCDdPHCbTCFBABBbBbYCJRcTFAScUhRbGbF" ++
    "IBbSBGBAbXbDCVBNcVGBBBbRDABBBCBACBYFBBBbKBBBDBAmPWJQBbODCeHAdBbjLdYeGRhNdxKdSPbpFRFZfxQF" ++
    "wKkdDbUcpDvWHbERdARbDSbVQDbFUFSqQbSiDcLeYcWEcEHQcMBBAMBOjbZIbvPbPJnfRDBGBBBlEPAbDCCAODIp" ++
    "FdkUeCFMDIHJEAiwFdGBcSBBCACBCDBLBABGBcMBDCHBGBbBBDBEBADGBnBCYBYBbEBYBbEBYBbEBYBbEBYBHcsY" ++
    "bEGFiFGBQCGBBBEFcJbHAeIbSKGQAmJbDSbRsQbBiUbDCAtBGBDBBBOBhOcHcPDADAbuIDBbABBBACABJBDBABAG" ++
    "AEABABABCBBBACABABABABABBBACDBGBDBDBABJBQFCBEBQyEZGZGZfmKclfBbGgdTGiNCinPOlbKPxXdqWuVcfY" ++
    "hhYFgfF"⟩,
  ⟨["Bidi_C", "Bidi_Control"], "ciEAjvLBbAEcDD"⟩,
  ⟨["Bidi_M", "Bidi_Mirrored"],
    "bOBSABAbCABAbDABAbTAPAfmSDcuNBdqQBKBcCBOBgVAhKDDFDADBDDBDBABAEIFABRFDJBBABHBbFCDFAJBCSF" ++
    "BJECBEXCPIDUBHBbpTNcWACDBBBCFDFCDNpNVCFBNIAHFDAEEBBCEEABCCBKFCBMSBDCABACABDFBGCYBLBEDBBC" ++
    "BEbQCHBbNFABADEFCEADEBAjWAtVDDBBBOBCJbRHqLJCHdacRFFBgGBSABAbCABAbDABABBBBddpNAcFAcFAcFAc" ++
    "FA"⟩,
  ⟨["CI", "Case_Ignorable"],
    "bNAGALAbJABAcTAEABAEACBtJhJEBEAJBBAjRGhZAFAbXbSBABBBBBAbSALFKKBAbJAKUQAdXHBJBDbHABAbEbA" ++
    "dNKcGKEACAYXbRCbSAHBFIbPcFcDABAEHEADGKBNAPAcGAEDIAUBbAACBcFAEBEBCCDAbEBDALBcFAEEBBEAUBWF" ++
    "BAcGACABDIAHBLBbEAcJAMAbYADAcDABCFCBDHBLBbDAcGACAGAFBUBbCBcFBEDIAUBbDAcUAHCBAdMACGLIdUAC" ++
    "IJABGcVBbBABABAcDNBEBBFKBbJJAdYDBFBBCBZBECQDNACBGAPAdQAxKCbkKCbDBbEBbEBcMBBGIACKDAFAbTEb" ++
    "ZAcNBbIAeOCEBJAGCiLBCAcGABGBABACHGJCAbNAIbEbXDbWABEBAFAbOIMBbGDCBBCcEABBDABCcGHCBcMFdECB" ++
    "MBGEAGADBbYcKNAbIdWrDABCLCNCNCNBMEIBKACACEbXEBJBANAQMbZbGejRBeJCeVAPAdSbFbVAsBAbKDDEFAdP" ++
    "FdPCbqbUAbwCFkKAdUDBJBAbCDdCBObHdAAXCdZCDBIADAEAZBFAfVBbARNAbMHZKbUCbWACDCBRAVBcOFCBCBMA" ++
    "IAbJALAbZABCCBFBBAbBAOBFBBAdWEJCeRACAEAbdzSAfRQwBPDAMPbIACAgNAHAGALAbJABAbVAbTBcPAVCtTAi" ++
    "SAfTEbnPFBbPBIwKCBBFDbOCEAgJBwBDbMAbAEBAmDBdBDcSKbXDeTAcCObPACBKCbXDCBCAEAKAbYCbKEBHcKAM" ++
    "BcAIKDCAdRCCABBGACAgBADHVBcFBDAbLGDEcSFNABABAOBdHHCCBAXAdGFBAEBBBjEDGBBBbBBdHHCABBeCABAC" ++
    "FBAdXABACDBEjZIBBjWBBAEAfODCBEAbGJbOFCDIAJFCCbUMBBpQGBFBAdEVCGBBBBeSFDABBBGBAcUBDABAnJBL" ++
    "BcAEFABAXAhxDQGOqyYLDCdsAEcHGJDtOCbOBsOAcLQcMBBBygPDBGBBeuGBBDgyUbTCWuYCJPCGbEDfSCcyDcCE" ++
    "bXIAOAWEBOcaIGBQCGBBBEFcJbHAgENoEAcJDtNEjUBbcIGeFHebFEbsxxPAbEdReYjF"⟩,
  ⟨["Cased"],
    "cNZGZbVAKAEAFWBbEBhMBDEhZCbIHBbEEdSAbQDCBCDBAGABCBABTBdEBfIIgJBbLJbOefFbLBAFACbQBDzWdHC" ++
    "FdfUKFbQCCcMhJcMkRCFCbLCFCHBABABABbECcABGBADCBGDDCFEMFCBGeMANAQMdXAEACJBADEGABABABDBFEAC" ++
    "DFEEARbFDBbfLbZcrUiUGDDBMbLBAFAbtwCbTSbDfCdXDDBcJCBBABHVEBCbfPbQBNGdBbeaIGMEbnTZGZbtTdBd" ++
    "SbJEbJeMKBOBGBBBKBOBGBBrJACCBbPBIbuZbYNbYdPVKVefIcLbgiQcLbmlKdGBcSBBCACBCDBLBABGBcMBDCHB" ++
    "GBbBBDBEBADGBnBCYBYBbEBYBbEBYBbEBYBbEBYBHcsYJBTGFkBcJdgKcPdaAZGZGZ"⟩,
  ⟨["CWCF", "Changes_When_Casefolded"],
    "cNZdMAKWBHbGABABABABABABABABABABABABABABABABABABABABABABABABABABABACABABABABABABABABBBA" ++
    "BABABABABABABABABABABABABABABABABABABABABABBBABABABBBABBBCCDBBBCDBBBBABABBBACABBBCBABBDA" ++
    "HBBBBBBABABABABABABABACABABABABABABABABACBBABCBABABABABABABABABABABABABABABABABABABABABA" ++
    "BABABABABABABABAHBBBCABDBABABABAjMAbQABADAIAGABCBABBBQBIWAMCDBBABABABABABABABABABABABABB" ++
    "CBBABBCbYbWABABABABABABABABABABABABABABABABAJABABABABABABABABABABABABABABABABABABABABABA" ++
    "BABABABABABBBABABABABABACABABABABABABABABABABABABABABABABABABABABABABABABABABABABABABABA" ++
    "BABABABABABABABABABABABABABABABACbLbWAefGbLBAFAbfEFdfUJGbQCCmIABABABABABABABABABABABABAB" ++
    "ABABABABABABABABABABABABABABABABABABABABABABABABABABABABABABABABABABABABABABABABABABABAB" ++
    "ABABABABABABABABABABABABABABABABABAFBCABABABABABABABABABABABABABABABABABABABABABABABABAB" ++
    "ABABABABABABABABABABABABABABABABABABABABABABABAJHIFKHIHIFLABABABAIHQbVCCCFFCCFLDMEFCCFlL" ++
    "ADBGAbTPTAbfMZcsUbVbWABCCABABABDBACAICBABABABABABABABABABABABABABABABABABABABABABABABABA" ++
    "BABABABABABABABABABABABABABABABABABABABABABABABAIABAEAbtyJABABABABABABABABABABABABABABAB" ++
    "ABABABABABABABATABABABABABABABABABABABABABAfFABABABABABABADABABABABABABABABABABABABABABA" ++
    "BABABABABABABABABABABABABABABABAKABABBBABABABAEABACABADABABABABABABABABABABEBEBABABABABA" ++
    "BABABDBABBDAFABABABAYAbiGdBbeaIGMEbnTZbuZbNfGbJgAKBOBGBBcqCbYgBVegObFbgjWbFbulKbH"⟩,
  ⟨["CWCM", "Changes_When_Casemapped"],
    "cNZGZcGAKWBbEBcLBdFBbBCNCBBAEdOBRGbABBBABBDBBDBECABBCAHACABBDFFAKBgKAbQDCBDCBAGABCBABTB" ++
    "bUDbGBEBfCIgJBbLKbMefGbLBAFACbQCCzWdHCFdfUKFbQCChDADAQAeJfZCABeNCFCbLCFCHBABABABbECcABGB" ++
    "ADCBGDDCFEMFCBGlLADBGAbBARbFDBbfLbZcrUeIBBBBHdXHDDBMbLBAFAbtwCbTSbBfENCcJJODCCEBYBbDCBBA" ++
    "BHYBbhCAbCdBbeaIGMEbnTZGZbtTdBdSbJEbJeMKBOBGBBBKBOBGBBcoPbYNbYdPVKVefIcLbgiQcLbukEcP"⟩,
  ⟨["CWL", "Changes_When_Lowercased"],
    "cNZdXWBGbHABABABABABABABABABABABABABABABABABABABABABABABABABABABACABABABABABABABACABABA" ++
    "BABABABABABABABABABABABABABABABABABABABABBBABADBBABBBCCDBBBCDBBBBABABBBACABBBCBABBDAHBBB" ++
    "BBBABABABABABABABACABABABABABABABABACBBABCBABABABABABABABABABABABABABABABABABABABABABABA" ++
    "BABABABABABAHBBBCABDBABABABAlDABADAIAGABCBABBBQBIbJAIABABABABABABABABABABABAFACABBCbYbWA" ++
    "BABABABABABABABABABABABABABABABAJABABABABABABABABABABABABABABABABABABABABABABABABABABABB" ++
    "BABABABABABACABABABABABABABABABABABABABABABABABABABABABABABABABABABABABABABABABABABABABA" ++
    "BABABABABABABABABABACbLehDbLBAFAbbUdHdgLAGbQCCmIABABABABABABABABABABABABABABABABABABABAB" ++
    "ABABABABABABABABABABABABABABABABABABABABABABABABABABABABABABABABABABABABABABABABABABABAB" ++
    "ABABABABABABABABABABAJABABABABABABABABABABABABABABABABABABABABABABABABABABABABABABABABAB" ++
    "ABABABABABABABABABABABABABABABAJHIFKHIHIFLABABABAIHYHIHIHIELELDMELElLADBGAbTPTAbfMZcsUbV" ++
    "bWABCCABABABDBACAICBABABABABABABABABABABABABABABABABABABABABABABABABABABABABABABABABABAB" ++
    "ABABABABABABABABABABABABABABAIABAEAbtyJABABABABABABABABABABABABABABABABABABABABABABATABA" ++
    "BABABABABABABABABABABABAfFABABABABABABADABABABABABABABABABABABABABABABABABABABABABABABAB" ++
    "ABABABABABABAKABABBBABABABAEABACABADABABABABABABABABABABEBEBABABABABABABABDBABBDAFABABAB" ++
    "AYAbhaHZbuZbNfGbJgAKBOBGBBcqCbYgBVegObFbgjWbFbulKbH"⟩,
  ⟨["CWT", "Changes_When_Titlecased"],
    "dTZcGAbPXBHBABABABABABABABABABABABABABABABABABABABABABABABABABABABACABABABABABABABBBABA" ++
    "BABABABABABABABABABABABABABABABABABABABABACABABCCABACADAFACADCCACABABACAEACADABACADABAEA" ++
    "BBBBBABABABABABABABABBBABABABABABABABABCBABADABABABABABABABABABABABABABABABABABABABADABA" ++
    "BABABABABABABAIACBBAEABABABABFBBBABBDBBDBECABBCAHACABBDFFAKBgKAbRABADADCSAbBbIBBDCBABABA" ++
    "BABABABABABABABABEBACACAcAbVBABABABABABABABABABABABABABABABABAJABABABABABABABABABABABABA" ++
    "BABABABABABABABABABABABABABACABABABABABABBBABABABABABABABABABABABABABABABABABABABABABABA" ++
    "BABABABABABABABABABABABABABABABABABABABABABABABABAbXbMfmEFdfUIBAjEADAQAeKABABABABABABABA" ++
    "BABABABABABABABABABABABABABABABABABABABABABABABABABABABABABABABABABABABABABABABABABABABA" ++
    "BABABABABABABABABABABABABABABABABABABABABABABGFABABABABABABABABABABABABABABABABABABABABA" ++
    "BABABABABABABABABABABABABABABABABABABABABABABABABABABIIFKHIHIFKHIHINCHIHIHIEBBGADCBBIDCB" ++
    "IHKCBBnEAbHPEAbgLZctQbVBADBBABABAGACAKABABABABABABABABABABABABABABABABABABABABABABABABAB" ++
    "ABABABABABABABABABABABABABABABABABABABABABABABABAIABAEAMbLBAFAbtwDABABABABABABABABABABAB" ++
    "ABABABABABABABABABABABATABABABABABABABABABABABABABAfFABABABABABABADABABABABABABABABABABA" ++
    "BABABABABABABABABABABABABABABABABABABABAKABACABABABABAEAEABBCABABABABABABABABABALABABABA" ++
    "BABABABAEABACADABABABABABAbAAbhCAbCdBbeaIGMEboZZbvHbNfGbJfZKBOBGBBcrBbYeVVegObFbgjWbFbul" ++
    "MbH"⟩,
  ⟨["CWU", "Changes_When_Uppercased"],
    "dTZcGAbPXBHBABABABABABABABABABABABABABABABABABABABABABABABABABABABACABABABABABABABBBABA" ++
    "BABABABABABABABABABABABABABABABABABABABABACABABCCABACADAFACADCCACABABACAEACADABACADABAFB" ++
    "BBBBBABABABABABABABBBABABABABABABABABBBBBADABABABABABABABABABABABABABABABABABABABADABABA" ++
    "BABABABABABAIACBBAEABABABABFBBBABBDBBDBECABBCAHACABBDFFAKBgKAbRABADADCSAbBbIBBDCBABABABA" ++
    "BABABABABABABABEBACACAcAbVBABABABABABABABABABABABABABABABABAJABABABABABABABABABABABABABA" ++
    "BABABABABABABABABABABABABACABABABABABABBBABABABABABABABABABABABABABABABABABABABABABABABA" ++
    "BABABABABABABABABABABABABABABABABABABABABABABABAbXbMehCbQCCbdGFdfUIBAjEADAQAeKABABABABAB" ++
    "ABABABABABABABABABABABABABABABABABABABABABABABABABABABABABABABABABABABABABABABABABABABAB" ++
    "ABABABABABABABABABABABABABABABABABABABABABABABABABGFABABABABABABABABABABABABABABABABABAB" ++
    "ABABABABABABABABABABABABABABABABABABABABABABABABABABABABABIIFKHIHIFKHIHINCcABBEABADCBBEA" ++
    "DDCBIHKCBBEAmZAbHPEAbgLZctQbVBADBBABABAGACAKABABABABABABABABABABABABABABABABABABABABABAB" ++
    "ABABABABABABABABABABABABABABABABABABABABABABABABABABABAIABAEAMbLBAFAbtwDABABABABABABABAB" ++
    "ABABABABABABABABABABABABABABATABABABABABABABABABABABABABAfFABABABABABABADABABABABABABABA" ++
    "BABABABABABABABABABABABABABABABABABABABABABABAKABACABABABABAEAEABBCABABABABABABABABABALA" ++
    "BABABABABABABAEABACADABABABABABAbAAbhCAbCdBbeaIGMEboZZbvHbNfGbJfZKBOBGBBcrBbYeVVegObFbgj" ++
    "WbFbulMbH"⟩,
  ⟨["Dash"], "bTAcaUAbZAfkJAbnPAdbDFcJAbNAPApAAeoIACAbFBEAbCArEATAeHAczwABbLAKAgNAflOAmGA"⟩,
  ⟨["DI", "Default_Ignorable_Code_Point"],
    "gRAzXAbbOAegWBckHBdHEdaPEbAEbXPgkYAczmPPjFAgEAdBIctlNDhwXHbtkzLgbN"⟩,
  ⟨["Dep", "Deprecated"], "mRAbyVAdkTABAdcJBdiJFbaVBbzryKA"⟩,
  ⟨["Dia", "Diacritic"],
    "dQABAcTAGAEACBtJgCBHFFRBEAJBjTEiBAcDbSBABBBBBAfBHEBfEBEBDCcPbAdNKcGKbIBeWHbPJQbBcJAQADD" ++
    "bCAcWAQAeGAQAeGAQAbVCcIAQAHAePAeGAQAeGAQAeFBQAeUAeHAMFBAeDANEcXBbBABABAEBcOCBBcKAeIABBbO" ++
    "BEEZGBAKBbbDCbkMBbEAfSKJAnJClGAUHCAbWOCKeAAPAbMIcCBcGALBcOBcMFdEYEAGACCbYcKbWbJFLbLKrDAB" ++
    "CLCNCNCNBexKCmFAtMFeBDdRAbsmKAMBBAbCBdEBObHdYCeFBMAbLAfVAbBRcFDbKAdRAMAbKAfTCcNDbZAdWEJC" ++
    "eYBbdzSAbdPPkKABAbVAbTBcPAbdKAbtNFBbPBIyNCEAgJBvZFbMAbAEpJCcSKbXDhKAbPAcUBeQBcKAcYAJCeAB" ++
    "gWBdCBQAYGDEdLCBBNBdRADAeTBjRBeWAeOBeLAkJBjYBEAgAAdFASAdDAqFAjYABBdDAqJBXAhyAOqzPAdsAEcH" ++
    "GvSBvAQdCBygCDBGBBltHbTCWuYCDFIHCGbEDfmWcJhMGoLAcJDbdMBbcIGeFCBC"⟩,
  ⟨["Emoji"],
    "bJAGAFJeHAEAlyRAMAiIAWAdMFPBoDBMAgKAZKEChRAiXBKAJAcGDBEJACACBCAEACABBCADADBICFABAFLLBCA" ++
    "BBBASACBSFBABBDBFACBEBLBFBCAFBBABBUBFFBDCAEACACFBACABABAGADAGAKBPACAEABAECBALBbWCJAOAOAo" ++
    "IBrVCTBbZAEAbvUAMAxDABAgmrQAhUAgEBMBOACJcXZBBXAUACIVBgSbHCeHCBBCCdECCBkCBcKLFBXHBCHMACDC" ++
    "AEBNBCAIBJAFCMCICCABAEAGADAGdHbWcRFHCCEJDABBDACJiTLEAkXbUBJBhCeIMDJFcDHOCKGI"⟩,
  ⟨["EComp", "Emoji_Component"], "bJAGAFJmbJAiFAdftRAdoiWZtNEceADbsvuQdR"⟩,
  ⟨["EMod", "Emoji_Modifier"], "hhiXE"⟩,
  ⟨["EBase", "Emoji_Modifier_Base"],
    "olHAiLAQDgsjVAcICCACCeNBCKVSDAECBCHABAYAhTBEAVAEBgSCDEdFAQCJALAwDACAIHGAJJCCcEAcJBBBBAR" ++
    "CBMiVCbQI"⟩,
  ⟨["EPres", "Emoji_Presentation"],
    "nhQBhXDDACAuBBVBbYLbRATANAIBRBFBIAFAVAHBBAEACAHAEBbCAbJABAECBAcJCYAOAbhBBbZAEAgplEAhUAh" ++
    "IACJcXZBAYAUACEBCVBgSbGMIBcRBVMbQEEMQDADcSBABhECcKNDBXSAbABNAdIdGbWcRGADCCCEDLBHIiTLEAkX" ++
    "bUBJBhCeIMDJFcDHOCKGI"⟩,
  ⟨["ExtPict", "Extended_Pictographic"],
    "gNAEAlyRAMAiIAWAdMFPBoDBMAgKAZKEChRAiXBKAJAcGDBEJACACBCAEACABBCADADBICFABAFLLBCABBBASAC" ++
    "BSFBABBDBFACBEBLBFBCAFBBABBUBFFBDCAEACACFBACABABAGADAGAKBPACAEABAECBALBbWCJAOAOAoIBrVCTB" ++
    "bZAEAbvUAMAxDABAgmrQAbNDdWLPBPAOBbLJeIBMBOACJTcDbBOKAUACIBDJWGhFCeHCBBCCdECCBDFjTBcKLFBX" ++
    "HBCHMACDCAEBNBCAIBJAFCMCICCABAEAGADAGdHbWcRFHCCBMDABFCMiKbLMDcEHKFbOHbEBMDCNJbMMbUBJBhCd" ++
    "KHObBBCBcEBDBbBBDBPjWbnH"⟩,
  ⟨["Ext", "Extender"],
    "hBAuQBbhUAqZAyGAfHAdLAbcYAeXAdnFAcEAxNApIAcQAhkJAbREdZBdPCbqbUAcgSAblAAWAfHAeEAVBbfzVAd" ++
    "bKBcfBAbBAEAbvBAlHAeMBtECbvJAbeoFBbtKBBAbqyABbuFAbgUC"⟩,
  ⟨["Gr_Base", "Grapheme_Base"],
    "bGdQbHMBwVeIHCFEGBABTBiPHgJBbLCbXCCbUABACACAJbAEFRJLABbTVPBdWIAGBCAEbFCABbDbDdKLAObQJGD" ++
    "XEAJADAHOBYFABKFbERbPcFcCBABDIDBCHJCbCBBBHCBCVBGBADDDABBGBCBBANBBCEXFABFEBCVBGBBBBBBECYD" ++
    "BAHJCCBAMABIBCBVBGBBBEDDIABBDAPBELHAIBBHCBCVBGBBBEDACAGBCBPBBCERLABFDCBDDBBABBDBDCDLFABB" ++
    "DCBCDAVUGCBHBCBWBPDADDTCCACBEJHJBKBCBWBJBEDBCABBYBBBEJBCOKBCBbOCABBFCBCBBECBJEZCBBRDXBIB" ++
    "ACGJBGGHJCCMbVBBLHIMbLBBABEBXBABJBBJACEBAJJCDbGXCbABABABNBbJSAFACEbXHBFBMbLbSEAGACBCYCDD" ++
    "PEMBBCFBOBbNBAFACoMBDCGBABDCbOBDCbGBDCGBABDCOBcEBDCcOFbCDZGdHCFCzSDdKHRNSDBJROMBCPbZCAHH" ++
    "BBLIDJGJGKFJGdKHECbHBAFcRKbEEDCCEBBFHADbPCELbREZGKDcECBDcDBAJABBIFNJGJGNdIbVKDDHBbCJLCbF" ++
    "EBGcDBACCBANbVIBFODcJFbQCKLANAHDBFBCCAFhJcMkRCFCbLCFCHBABABABbECcABOBNCFBSCCBIBKFXHbWQBC" ++
    "bABMDbGcLfJEzPWKVcrRCbFBnFDBFbSBAFACcDHBPWJGBGBGBGBGBGBGBGbHdPbIZBdKMiFbAcFGPBdHEdWFbQBd" ++
    "PBdHJbVBbriQDcCJnJUbUEAKbFCdBCFIhXCBBABHVPBCBDBYCEEJGcDIcPKLYMBbLIYLAMbDGbVBBEBCBBMBKEGB" ++
    "YBbOGBCBLCBHBACJCbFBbYBADBCECABAYQCHLFCFCFJGBGBcHEeMBBBDDJGqnRMWEbWmnCoBCeBbMGMEFABXBEBA" ++
    "BBBBBeUQrCCcBHAbGPQJWbIBSBDEEBfEEgACbEDFCFCFCCDGBGNBCLBZBSBBBOCNbIeSFCEbSDdJBMDAbVbSfBbC" ++
    "DbWQbAEbJJbDFbLKbDBbKENbQgBCJGbJEbJEbNIbZLLBOBGBBBKBOBGBBDbZMlYJVKHYFBbPBIcRFCABbRBBDACW" ++
    "BcTIIbWSBBFbGDbAFAcMcDETCbUPDBCBbCKIHIHcLbGbKGLJcBDbCCbAFZHDMGdCcUcDbYNbYHbPMJGbLIXIBiAb" ++
    "EBbPDACBQCcHbNIVLIWREDbMbBUWJABcBPGEbDBBCAMbWEBCBBDOYHJJbJFAJRIbIBCLbZJABHEBBPBTLRBbBDBE" ++
    "FBBcLGBABDBOBKGbUBCNJIBBHCBCVBGBBBEDABABDCBCBDAMGbCJBACABbLBABBPABBDABCBBbNcDIBDABUBABCb" ++
    "EbVBBGABBBACACDIJgKbUBBGDCACbAbKbYIBBACDLJGMTbQBABBIBGJGTbCbADABBEAJWhDbUJACAdWdEMHCACHB" ++
    "BBXBEBBGDBCJJcSHCbPIDBDbBAKbNGBEHJAGBDbTNACINcUHJhAbHOJGIBbLOABFKbCDbFZAHACAcXGBBBbLVAJJ" ++
    "GFBBBbKEBBABAHJlYSCDJOBbJIBDWdIAPbXNbjMdYeGBELhNdxKdUNbpFRFZfxQFwKkdDbDMCDJcoSvWHbEBJEdC" ++
    "BJGbDHAKbVHOKJBGBUFSqQcFhQdMdXcWFcDLMcMDbCjbZIbvPbPJnfRDBGBBBlEPAbDCCAODIpFdkUeCFMDIHJCA" ++
    "CAfvKjPGqTgAeLcIjLKbMCcHFCWBHbDEcIVcNDAeSTMTMdIJYfFdGBcSBBCACBCDBLBABGBcMBDCHBGBbBBDBEBA" ++
    "DGBnBClFCvPcDDbYHBNBGbrWbEGFkBcJfQbSKGCJEBmIbDSbREJFArWbBEJiGbDCKEAsMGBDBBBOBhOCIbWcPHAE" ++
    "JEBbeFcPcYcIhMDBbABBBACABJBDBABAGAEABABABCBBBACABABABABABBBACDBGBDBDBABJBQFCBEBQcABkKbRE" ++
    "dVMOCOBOBbKKgRcEbCNbREIHBOFfYblVEQDMDeOEdQGLEAPLEcDIJGbNIbDCLEBcKnBMNCMDJFcDHOCKGIHfQBdX" ++
    "bnQclfBbGgdTGiNCinPOlbKPxXdqWuVcfYhhYFgfF"⟩,
  ⟨["Gr_Ext", "Grapheme_Extend"],
    "bdOeHkPGkDbSBABBBBBAcUKbWUQAdXGCFCBBDbJAbEbAdNKcGIJAYDBIBCBEbRCcHIbQXBbFcDABAEHEADGKBbD" ++
    "AcGABACDIAJAKBbAACBcFAEBEBCCDAbEBDALBcFAEEBBEAUBWFBAcGABBBDIAHCKBbEAcHABAMAJAbOADAcDABCF" ++
    "CBDHBLBbDAcGACBBADCBDHBLBbCBcFBBACDIAJAKBbDAcUAEACCBAIAdDACGMHdUACILGcVBbBABABAcDNBEBBFK" ++
    "BbJJAdYDBFBBCBZBECQDNACBGAPAbbBCbkKDbCCbDBbEBcMBBGIACKJAbTCBAeNBbIAeOCEBJAGCiLBCAcGABGBA" ++
    "BACHGJCAbWbEbXDbWJECbMIMBbGDCFcEABBDABEcEHCBfWCBMBGEAGADBhQcLuEAhNbGeoCCfLAdSbFvIFeBBbsq" ++
    "EDBJbGBdCBkMADAEAZBFAfVBbARNAbMHZKBAbSCbWACDCBCAbKAcPFCBCBMAIAbVAbZABCCBFBBAbQBIAjEACAEA" ++
    "bdzSAbcJPQPoCBxHAiSAfTEcmGCBBFDbOCEAgJBwBDcNEmFBdBDcSKbXDeTAcCObPACBKCbXDCBHAcJCbKEBHcKA" ++
    "MBcAIBAIDCAdRCCDGACAgBADHVBcFBBABAMAJAOGDEcPACFBACABCECBAOBdHHCCBAXAdDACFBACABBBBjBACDGB" ++
    "BBbBBdHHCABBeCABACHdXABACDBEjZIBBjLAKDEAfODCBEAbGJbOFCDIAJFCCbUMBBpQGBFBAdEVCGBBBBeSFDAB" ++
    "BBGBAcUBDABAnJBLBcAEFCXAhxTAGOqyYLDCdsAEcHGboIAcLDdDALBbdaXBgyZbTCWuWEDFIHCGbEDfSCcyDcCE" ++
    "bXIAOAWEBOcaIGBQCGBBBEdWAgEGoLAcJDtODjUBbcIGeFGbtcaFdReYjF"⟩,
  ⟨["Gr_Link", "Grapheme_Link"],
    "dnPAeXAeXAeXAeXAeXAeXAeXAeFBQAeUAeHAeXAhTAgYBcpLBbEAgBAzDAiTAdXBcSBgqTAbukKAbLAfVAfMAeE" ++
    "AlXAjMAbjsRAchIAbPAOAcFAeRBfJAeMAgYAdUAeYCeJAeXAjSAeXAeOAeMAkJAjZBgFAdFASAdDAqFAkABdDAqJ" ++
    "ByzCA"⟩,
  ⟨["Hex", "Hex_Digit"], "bWJHFbAFdslLJHFbAF"⟩,
  ⟨["Hyphen"], "bTAeXAbvWAgzZAdbDBfiBAbcLAczuLAgNAdJA"⟩,
  ⟨["IDSB", "IDS_Binary_Operator"], "seABCJtDA"⟩,
  ⟨["IDST", "IDS_Trinary_Operator"], "seCB"⟩,
  ⟨["IDSU", "IDS_Unary_Operator"], "seOB"⟩,
  ⟨["ID_Compat_Math_Continue"], "gWBFAmaGADKBOoHAEAWAgjjEAZAbFAZAbFAZAbFAZAbFAZA"⟩,
  ⟨["ID_Compat_Math_Start"], "mwWAEAWAgjjEAZAbFAZAbFAZAbFAZAbFAZA"⟩,
  ⟨["IDC", "ID_Continue"],
    "bWJHZEABZbVAKABACAFWBbEBrPELOEHABAReMBBCDBAGEBABTBdEBfIBECgJBbLCAGbOIbSBABBBBBAIbAEDbDK" ++
    "FcVEdXBHCJBSCAQcGCdWOcBEACACbTSbBEKFXBFIcWBeYCJBSBHCBCVBGBADDCICBCDIAEBBECLKABACCBFEBCVB" ++
    "GBBBBBBCABEEBCCDAHDBAHPLCBIBCBVBGBBBECJBCBCCAPDCJJGBCBHCBCVBGBBBECICBCCHCEBBECJBAQBBFDCB" ++
    "DDBBABBDBDCDLEEDCBDCAGAOJQMBCBWBPCIBCBDHBBCCACDCJQDBHBCBWBJBECIBCBDHBGBBDCJBCMMBCBbYBCBE" ++
    "FDHECJKFBCBRDXBIBACGDAEFBABHGJCBNcFFOBJbNBBABEBXBABWCEBABGBJCDbGAXBGJLABABAEJBbJETBRBbJJ" ++
    "AcFcVGcZCbLBAFACbQBmUBDCGBABDCbOBDCbGBDCGBABDCOBcEBDCcOCCJIOPQdHCFDxVCQBZFcWDKHVJVLTMMBC" ++
    "BBMdFDAEBCJbHCBKGdKHbQFcRKbEBLELKbNCELbREZGKbLbBEcKBbCCKGJNAINBPbXcYDJRIMeLMcDIJDbWCKFbQ" ++
    "CCQCBbMFuNCFCbLCFCHBABABABbECcABGBADCBGDDCFEMFCBGPBbXBTAbCANAQMbZMEADLRAEACJBACFGABABABP" ++
    "CDFEEARbOdzBiUGIMbLBAFACcDHAPXJGBGBGBGBGBGBGBGBbFtXCZOBECEEdHCGBdQFbQBdPRbFbWPtSjtNcMbgu" ++
    "EcPbTCkIDbBUbVEJBeKbLICdYCcOCBBABHVcBEATbZMcRKJGXDABbWCbJMbCDcMOKGbEBcCJNCJGWDcUYCCPCEKF" ++
    "CFCFJGBGBbQBNGeSBBCJGqnRMWEbWmnCoBCeBbMGMEFLBMBEBABBBBBeDbHnYScLCcBbOLEPQPDBYCbGEBfETJHZ" ++
    "EABZKdLDFCFCFCCbJLBZBSBBBOCNbIeScRcAfGAfAbCDbWPAbFbFNbDFbQFbDCbJEHBEbQgBCJGbJEbJEbNIbZMK" ++
    "BOBGBBBKBOBGBBDbZMlYJVKHYFBbPBIcRFCABbRBBDACWKWJbEcNSBBKVKZcScDGBcMDBBFHBCBbCCCEAbGbCDbC" ++
    "bJHBbDZcBKVKSNReGcUcDbYNbYNbNIJGbLDEBWjQbPBBDBQCcDbGKAIbGbFVbQUbBWJcSbFPJcHHANYHJGcABJED" ++
    "IbJCAJcQEDBMBAbJRBbKGDcKGBABDBOBJHcGFJGDBHCBCVBGBBBEBJCBCCCAGAFGCGDELJBACABbLBJBACABDBHN" ++
    "BbDcWFJEDbEcRBAIJgKcBCIXFbIcMDALJbMcEHJGTbCbACOEJGGhDcGdXcVVHCACHBBBbDBBCIMJcSHCbTCHBBbB" ++
    "cKIAIcVDAScUhRbGPJGIBbSBIPJYbDCVBNcVGBBBbRDABBBIIJGFBBBbKBBBFHJlYWJQBbODENKdHAdBbjLdYeGR" ++
    "hNdxKdSPbpFQVKfxQFwKkdDcFcoSvWHbEBJGdABJGbDCELcCJDMJJUFSqQbSDJhQcLeYcWEcEHQcMBBBLBOjbZIb" ++
    "vPbPJnfRDBGBBBlEPAbDCCAODIpFdkUeCFMDIHJDBgeRJtYbTCWuWEDFIHCGbEDfSCrBdGBcSBBCACBCDBLBABGB" ++
    "cMBDCHBGBbBBDBEBADGBnBCYBYBbEBYBbEBYBbEBYBbEBYBHCbXtScCEbXIAOAWEBObqMbEGFiFGBQCGBBBEFcJb" ++
    "HAeIbSDNCJEAmJbERcFsCbPiGbQsRGBDBBBOBhOLGbPcXEJbtUDBbABBBACABJBDBABAGAEABABABCBBBACABABA" ++
    "BABABBBACDBGBDBDBABJBQFCBEBQfaAJbnQclfBbGgdTGiNCinPOlbKPxXdqWuVcfYhhYFgfFbonhGjF"⟩,
  ⟨["IDS", "ID_Start"],
    "cNZGZbVAKAEAFWBbEBrPELOEHABAeZEBBCDBAGABCBABTBdEBfIIgJBbLCAGbOcTbAEDbTbQbJBBdUBAPBHBKCC" ++
    "AQABbDbDdKLAYbGJBEAFVEAJADAXYHKFXBFRbPcGcBDASAHJPPEHCBCVBGBADDDAQANBBCOBKAIFEBCVBGBBBBBB" ++
    "bFDBATCQIBCBVBGBBBEDASAPBXALHCBCVBGBBBEDAbEBBCPARABFDCBDDBBABBDBDCDLWAcAHBCBWBPDAbACCACB" ++
    "bEAEHBCBWBJBEDAbFBBBPBRIBCBbOCAQAFCICYFFRDXBIBACGcGbVBBMGcGBBABEBXBABJBBJACEBAVDbGAcLHBb" ++
    "JbBEeLbQUAQFEDDADBHCEMMARbLBAFACbQBmUBDCGBABDCbOBDCbGBDCGBABDCOBcEBDCcObLPQdHCFDxVCQBZFc" ++
    "WDKHRNSOROMBCPbZbJAEAcPdKHbOBAFcRKbEbXbDCELbREZcCWJcAdEAdPbURHcCbDNBKbRbAbJbPCKbJCKFbQCC" ++
    "bPDBFBBDAFhJcMkRCFCbLCFCHBABABABbECcABGBADCBGDDCFEMFCBGeMANAQMdXAEACJBACFGABABABPCDFEEAR" ++
    "bOdzBiUGDDBMbLBAFACcDHAQWJGBGBGBGBGBGBGBGvECZIHECEEdHEEBdLBDFbQBdPRbFbWPtSjtNcMbguEcPbTC" ++
    "kIDPKBUbUQbECdBbNICdYCcOCBBABHVPBCBDBWbDbZObXcKFDABBLbBKWZbCHbUbCAQEBJKEBbOXCBHUWDADbXBA" ++
    "DBCECABAYCCKHCMFCFCFJGBGBbQBNGeKbDqnRMWEbWmnCoBCeBbMGMEFABJBMBEBABBBBBeDbHnYScLCcBbOLeME" ++
    "BfEbKZGZLdKDFCFCFCCbJLBZBSBBBOCNbIeScRcAkHbCDbWbVbFNbDFbLKbDCbJEHBEbQgBSbJEbJEbNIbZMKBOB" ++
    "GBBBKBOBGBBDbZMlYJVKHYFBbPBIcRFCABbRBBDACWKWJbEcNSBBKVKZcScDGBcMAPDBCBbCbQbCDbCbJHBbBbBc" ++
    "BKVKSNReGcUcDbYNbYNbJbMbBJWjQbPGBQCcHbCKAIVbQRbUUbBWMcAcFBCANbSbGYbAbJbDACAIbIDAMbVODVAB" ++
    "AbJRBYTBcLGBABDBOBJHbUbMHCBCVBGBBBEDASAMEbEJBACABbLBAZABAbScASDUCbEbVUBBAhCbUbPDbKbVUAcH" ++
    "bQNAcTbAbLGhDbReMcLbFHCACHBBBXPABAdQHCbMQABAbCAKbNHAVALbTTAScUhRbGbFIBbKRAbXbDeIGBBBbLVA" ++
    "ZFBBBbFOAmPSPABMBbHeUAdBbjLdYeGRhNdxKdSPbpFRFZfxQFwKkdDbDcpUvWHbERdARbDSbVQDbFUFSqQbSiDc" ++
    "LeYcWFAcOMcMBBAbCjbZIbvPbPJnfRDBGBBBlEPAbDCCAODIpFdkUeCFMDIHJiwKdGBcSBBCACBCDBLBABGBcMBD" ++
    "CHBGBbBBDBEBADGBnBCYBYBbEBYBbEBYBbEBYBbEBYBHcsYbEGFkBcJfQbSKGQAmJbDSbRsQbBiUbDCAtBGBDBBB" ++
    "OBhOcHcPHAbuIDBbABBBACABJBDBABAGAEABABABCBBBACABABABABABBBACDBGBDBDBABJBQFCBEBQgoAclfBbG" ++
    "gdTGiNCinPOlbKPxXdqWuVcfYhhYFgfF"⟩,
  ⟨["Ideo", "Ideographic"],
    "seWBZIOCblDjtNcMbfbJbhsIoBCeBbsiKAbBjbZIbvPbPJnuLpFbdeIclfBbGgdTGiNCinPOlbKPxXdqWuVcfYh" ++
    "hYFgfF"⟩,
  ⟨["Join_C", "Join_Control"], "mdOB"⟩,
  ⟨["LOE", "Logical_Order_Exception"], "fkIEeTEedSCCAccxMBCABB"⟩,
  ⟨["Lower", "Lowercase"],
    "dTZbVAKAEAbKXBHBABABABABABABABABABABABABABABABABABABABABABABABABABABABBBABABABABABABABB" ++
    "BABABABABABABABABABABABABABABABABABABABABABABACABABCCABACADBEACADCCACABABACABBBACADABACB" ++
    "CCGACACABABABABABABABABBBABABABABABABABABBCABADABABABABABABABABABABABABABABABABABABABABA" ++
    "BABABABABABABABABGCACBBAEABABABABcQCbIHBbEEdSAbRABADACDSAbBbIBBDCBABABABABABABABABABABAB" ++
    "EBACACBbZbVBABABABABABABABABABABABABABABABABAJABABABABABABABABABABABABABABABABABABABABAB" ++
    "ABABABABABACABABABABABABBBABABABABABABABABABABABABABABABABABABABABABABABABABABABABABABAB" ++
    "ABABABABABABABABABABABABABABABABAbWbOehBbQBDbdGFdfUIBAeNhJcNABABABABABABABABABABABABABAB" ++
    "ABABABABABABABABABABABABABABABABABABABABABABABABABABABABABABABABABABABABABABABABABABABAB" ++
    "ABABABABABABABABABABABABABABABABIBABABABABABABABABABABABABABABABABABABABABABABABABABABAB" ++
    "ABABABABABABABABABABABABABABABABABABABABABIIFKHIHIFKHIHINCHIHIHIEBBGADCBBIDCBIHKCBBeRANA" ++
    "QMeFADBDAbBAEAEACBIDEAbHPEAbgLZctQbVBADBBABABAEABBBHDABABABABABABABABABABABABABABABABABA" ++
    "BABABABABABABABABABABABABABABABABABABABABABABABABABABABABABABABBHABAEAMbLBAFAbtwDABABABA" ++
    "BABABABABABABABABABABABABABABABABABABATABABABABABABABABABABABABABCfDABABABABABABCBABABAB" ++
    "ABABABABABABABABABABABABABABABABABABABABABABABABABABABJBABACABABABABAEABACABCBABABABABAB" ++
    "ABABABABAFAFABABABABABABABAEABACADABABABABABAWCBABCbfPbQBNGdBbeaIGMEboZZbvHbNfGbJfZKBOBG" ++
    "BBrJACCBbPBIbxLbYeVVegObFbgjWbFbmmKZbAGBRbAZbADBABGBKbAZbAZbAZbAZbAZbAZbAZbAZbAbBbCYBFbA" ++
    "YBFbAYBFbAYBFbAYBFBAcsYJBTGFkBcJdhSbH"⟩,
  ⟨["Math"],
    "bRAQCbFAbDABAbTAEAbLAbFAbcACCAbABCCuHCjwNAbBCLADANAODVELEcNMEADBEESAEACJBACFGADBCBBCBFD" ++
    "NBAcQXBFBBEBEbFBAGBOkHIDUBdMAbEbABAYALGrDBMJEFEBCBDEOABACFLHFBcFABAbDDJCmYcLjWtRbWUCFdas" ++
    "QAbfRFBAgGAQCbDABAbDABAfBAGDfeFBcxdWdGBcSBBCACBCDBLBABGBcMBDCHBGBbBBDBEBADGBnBClFCbXiiQD" ++
    "BbABBBACABJBDBABAGAEABABABCBBBACABABABABABBBACDBGBDBDBABJBQFCBEBQcAB"⟩,
  ⟨["MCM", "Modifier_Combining_Mark"], "ckIBCAfBAGADBsNBBCDAbFA"⟩,
  ⟨["NChar", "Noncharacter_Code_Point"],
    "dsdCbFuGBdsyOBdsyOBdsyOBdsyOBdsyOBdsyOBdsyOBdsyOBdsyOBdsyOBdsyOBdsyOBdsyOBdsyOBdsyOBdsyOB"⟩,
  ⟨["OAlpha", "Other_Alphabetic"],
    "bhJMwENBABBBBBAcUKbWMBGQAdXGEDCBEAbJAbEPdYKdXBDIBCBDeCAcILDGGTcCBCOBBFCKBbDCcGGCBCBKAKB" ++
    "bDCcGEEBCBEAbEBDALCcGHBCBBVBWCECcGGCBCBJBKBbEAcHEDCBCKAbOEcFGBCBCIBLBbDCcGGBCBCIBLBPAMDc" ++
    "GGBCBCKAKBbDCcXFBABHSBcJACGSAdVACFBBQAgHSJKBbJeGLBACDXDECBCCGDDNLBAKDclOBbEBbEBbEBcOShGB" ++
    "bIAeOLEIiOEcFJCTcWBLCbXEbWOcICbEICBcFKbYSpWbHgaTbFbtqAHbIBnQAIAXEdKBbYPBAcFAbMEbCLbTDbWL" ++
    "bLAcPNMAIBbTCbYABCCBFAbSEFAjDHbdzVAdeDEcmGCBBFDbeIDcNAmJBdBAjZCcBNbTBLCbTIJAcJCbKLSBcFCb" ++
    "WMOBdOICAGACAgBJXDcGGCBCBKAKBdGIBACABDBBdZMBCeCRjDGCGbDBdEOBAeCKdZNjXMjNFBBCBDABAfMGCFEA" ++
    "bCJbQEBDSKbUNpRHBGdFVBNeSFDABBBCBADAcOEBBBDnKDJBBAbWGDCyyNQfjCABcCHDdPBbdaYAnkJGBQCGBBBE" ++
    "dWAdhVA"⟩,
  ⟨["ODI", "Other_Default_Ignorable_Code_Point"],
    "bgPAfiLBckHBdhNAglIAdacPAdBIbwmiHABbDdSeXjGfiL"⟩,
  ⟨["OGr_Ext", "Other_Grapheme_Extend"],
    "drYAYAnUAYAdYAYAiYABAEBBBJBdZAYAePAPAdmRAbEAbnKAFABAFBdXAcTBboIAgcVBbtwTAeEAbgnLBgwMAeM" ++
    "AkEAOAJAdSAJACABCFAiQAMAjHAkCAyJAMAchFAbeoKBbkxNBGFbtlaZdR"⟩,
  ⟨["OIDC", "Other_ID_Continue"], "hBAbbRAgaJIclCAciZBgkRAdaeJA"⟩,
  ⟨["OIDS", "Other_ID_Start"], "jhLBdgJAVAfvWB"⟩,
  ⟨["OLower", "Other_Lowercase"],
    "gOAPAtHIHBbEEdSAcAAfcZAepZcKNAbIbKbaNANAQMiDPbgQZcwOBbugKBiCAeZCDBbhIDJAbiwSACCBbPBIddzHcJ"⟩,
  ⟨["OMath", "Other_Math"],
    "dQAbhXCCAbABCBkqYAbBCLAbGDYBOBcNMEADBEESAEACJBADEGADBCBBCBFDDFEcXECDBBBBBABECBEBERCBBAB" ++
    "GBAGBlEDgMBBAYARArDBMIFEFBCBDEOABACFYBcFABAbDDJBnEBbFJpNVcLDbGBdclFABAEAiDABAdcoVdGBcSBB" ++
    "CACBCDBLBABGBcMBDCHBGBbBBDBEBADGBnBCYBYBbEBYBbEBYBbEBYBbEBYBHCbXiiQDBbABBBACABJBDBABAGAE" ++
    "ABABABCBBBACABABABABABBBACDBGBDBDBABJBQFCBEBQ"⟩,
  ⟨["OUpper", "Other_Uppercase"], "mqQPbgGZgsiYZGZGZ"⟩,
  ⟨["Pat_Syn", "Pattern_Syntax"],
    "bHOKGbADBAbADbIGBABBBABBEAEADAXAbFAluEXIOCSBJlTbbRgEyFbEbnLBeAtSeXoVCEYPAczqZBkBB"⟩,
  ⟨["Pat_WS", "Pattern_White_Space"], "JESAdWAlyMBYB"⟩,
  ⟨["PCM", "Prepended_Concatenation_Mark"], "chCFiHAbXAoUBdCAdvxYAPA"⟩,
  ⟨["QMark", "Quotation_Mark"], "bIAEAfBAPAlwUHZBfiDArPDNCdabPDhHAEAdMB"⟩,
  ⟨["Radical"], "rpWZBdKMiF"⟩,
  ⟨["RI", "Regional_Indicator"], "hgoKZ"⟩,
  ⟨["STerm", "Sentence_Terminal"],
    "bHAMAQAcaBAfRCgYAbRCjMAcJABADBlHBcpWBbeKAEBbdTAhQBgBBbTAFAmCBnQDgGBKBCBbDChFBcNBbjWAXBJ" ++
    "CeuXClUANAWBqNAbshWAkKBiTADAoSBdIBdRAfWBfRCfOBjPAbfcWACBcHADBgNAMAQAcNAedWBbxDEbSDhHBeND" ++
    "eXCeZBGAQBdKBBBeEAlMBeNBoJBFOeBBjPCtXABAjRBdJBqEBbaQBcWBbcmBBfDAcNBLAvHBlKAbdoGAliMA"⟩,
  ⟨["SD", "Soft_Dotted"],
    "eBBhOAkVAbEAcAAUAmIAdUABAjmNAbZANADAfCAgBAqFAiGBegGAgelHBbYBbYBbYBbYBbYBbYBbYBbYBbYBbYB" ++
    "bYBbYBdfYAlTBbAA"⟩,
  ⟨["Term", "Terminal_Punctuation"],
    "bHAKABALBDAbfYAIAtTAcFAcUAOABCgYAbRKBAjBBcCFBHbFAkBBbwUBgQAEFlZBbeJHbdTAeUCcTBgBCDAbNDC" ++
    "BmCBnQDgGBKBBCbDChFEcKBbjWAXBJCeuXClUANAEAKABBDBqMBbshVBkJCiTEoSBdIBdRAfVCfRCeXAQBjPAbfc" ++
    "WACBcFCBDgNAKABALBDAcNACAbpQAbWAbsOAhRAlYBfWFcQFdLDbkQEbSDhHGeIDeXCeZBGAQBdKEeEAlMBeNCMB" ++
    "nUDDOeBBjPCtXABAjRBdJBEBpYCbTAyVBcWBbyXEbamZBfDAcNCKAvHBlJBbdoGAliLD"⟩,
  ⟨["UIdeo", "Unified_Ideograph"],
    "tsAjtNcMbfbJbicSBBABBKABABBCCdveCclfBbGgdTGiNCinPOlbKPxXgrQhhYFgfF"⟩,
  ⟨["Upper", "Uppercase"],
    "cNZdXWBGbHABABABABABABABABABABABABABABABABABABABABABABABABABABABACABABABABABABABACABABA" ++
    "BABABABABABABABABABABABABABABABABABABABABBBABADBBABBBCCDBBBCDBBBBABABBBACABBBCBABBDAHACA" ++
    "CACABABABABABABABACABABABABABABABABACACABCBABABABABABABABABABABABABABABABABABABABABABABA" ++
    "BABABABABABAHBBBCABDBABABABAlDABADAIAGABCBABBBQBIbJACCDABABABABABABABABABABABAFACABBCbYb" ++
    "WABABABABABABABABABABABABABABABABAJABABABABABABABABABABABABABABABABABABABABABABABABABABA" ++
    "BBBABABABABABACABABABABABABABABABABABABABABABABABABABABABABABABABABABABABABABABABABABABA" ++
    "BABABABABABABABABABABACbLehDbLBAFAbbUdHdgLAGbQCCmIABABABABABABABABABABABABABABABABABABAB" ++
    "ABABABABABABABABABABABABABABABABABABABABABABABABABABABABABABABABABABABABABABABABABABABAB" ++
    "ABABABABABABABABABABABAJABABABABABABABABABABABABABABABABABABABABABABABABABABABABABABABAB" ++
    "ABABABABABABABABABABABABABABABABAJHIFKHIHIFLABABABAIHcUDMDMDMELDkCAEADCCCCADEGABABABDCDK" ++
    "BFAbAPTAbfMZcsUbVbWABCCABABABDBACAICBABABABABABABABABABABABABABABABABABABABABABABABABABA" ++
    "BABABABABABABABABABABABABABABABABABABABABABABAIABAEAbtyJABABABABABABABABABABABABABABABAB" ++
    "ABABABABABABATABABABABABABABABABABABABABAfFABABABABABABADABABABABABABABABABABABABABABABA" ++
    "BABABABABABABABABABABABABABABAKABABBBABABABAEABACABADABABABABABABABABABABEBEBABABABABABA" ++
    "BABDBABBDAFABABABAYAbhaHZbuZbNfGbJgAKBOBGBBcqCbYgBVegObFbgjWbFbmmQZbAZbAZbAABBCACBCDBHbA" ++
    "ZbABBDCHBGbBBBDBEBADGbBZbAZbAZbAZbAZbAZbEYbHYbHYbHYbHYbHAgnLbHdbIZGZGZ"⟩,
  ⟨["VS", "Variation_Selector"], "jcTCBAdjcAPbwnkYjF"⟩,
  ⟨["WSpace", "White_Space", "space"], "JESAdWAbAAihJAdpNKbDBFAbVAfxWA"⟩,
  ⟨["XIDC", "XID_Continue"],
    "bWJHZEABZbVAKABACAFWBbEBrPELOEHABAReMBBDCBAGEBABTBdEBfIBECgJBbLCAGbOIbSBABBBBBAIbAEDbDK" ++
    "FcVEdXBHCJBSCAQcGCdWOcBEACACbTSbBEKFXBFIcWBeYCJBSBHCBCVBGBADDCICBCDIAEBBECLKABACCBFEBCVB" ++
    "GBBBBBBCABEEBCCDAHDBAHPLCBIBCBVBGBBBECJBCBCCAPDCJJGBCBHCBCVBGBBBECICBCCHCEBBECJBAQBBFDCB" ++
    "DDBBABBDBDCDLEEDCBDCAGAOJQMBCBWBPCIBCBDHBBCCACDCJQDBHBCBWBJBECIBCBDHBGBBDCJBCMMBCBbYBCBE" ++
    "FDHECJKFBCBRDXBIBACGDAEFBABHGJCBNcFFOBJbNBBABEBXBABWCEBABGBJCDbGAXBGJLABABAEJBbJETBRBbJJ" ++
    "AcFcVGcZCbLBAFACbQBmUBDCGBABDCbOBDCbGBDCGBABDCOBcEBDCcOCCJIOPQdHCFDxVCQBZFcWDKHVJVLTMMBC" ++
    "BBMdFDAEBCJbHCBKGdKHbQFcRKbEBLELKbNCELbREZGKbLbBEcKBbCCKGJNAINBPbXcYDJRIMeLMcDIJDbWCKFbQ" ++
    "CCQCBbMFuNCFCbLCFCHBABABABbECcABGBADCBGDDCFEMFCBGPBbXBTAbCANAQMbZMEADLRAEACJBACFGABABABP" ++
    "CDFEEARbOdzBiUGIMbLBAFACcDHAPXJGBGBGBGBGBGBGBGBbFtXCZOBECEEdHCBCCBdQFbQBdPRbFbWPtSjtNcMb" ++
    "guEcPbTCkIDbBUbVEJBeKbLICdYCcOCBBABHVcBEATbZMcRKJGXDABbWCbJMbCDcMOKGbEBcCJNCJGWDcUYCCPCE" ++
    "KFCFCFJGBGBbQBNGeSBBCJGqnRMWEbWmnCoBCeBbMGMEFLBMBEBABBBBBeDbHfIGiJScLCcBbOJGPQPDBYCbHABA" ++
    "DABABABABeVTJHZEABZKdLDFCFCFCCbJLBZBSBBBOCNbIeScRcAfGAfAbCDbWPAbFbFNbDFbQFbDCbJEHBEbQgBC" ++
    "JGbJEbJEbNIbZMKBOBGBBBKBOBGBBDbZMlYJVKHYFBbPBIcRFCABbRBBDACWKWJbEcNSBBKVKZcScDGBcMDBBFHB" ++
    "CBbCCCEAbGbCDbCbJHBbDZcBKVKSNReGcUcDbYNbYNbNIJGbLDEBWjQbPBBDBQCcDbGKAIbGbFVbQUbBWJcSbFPJ" ++
    "cHHANYHJGcABJEDIbJCAJcQEDBMBAbJRBbKGDcKGBABDBOBJHcGFJGDBHCBCVBGBBBEBJCBCCCAGAFGCGDELJBAC" ++
    "ABbLBJBACABDBHNBbDcWFJEDbEcRBAIJgKcBCIXFbIcMDALJbMcEHJGTbCbACOEJGGhDcGdXcVVHCACHBBBbDBBC" ++
    "IMJcSHCbTCHBBbBcKIAIcVDAScUhRbGPJGIBbSBIPJYbDCVBNcVGBBBbRDABBBIIJGFBBBbKBBBFHJlYWJQBbODE" ++
    "NKdHAdBbjLdYeGRhNdxKdSPbpFQVKfxQFwKkdDcFcoSvWHbEBJGdABJGbDCELcCJDMJJUFSqQbSDJhQcLeYcWEcE" ++
    "HQcMBBBLBOjbZIbvPbPJnfRDBGBBBlEPAbDCCAODIpFdkUeCFMDIHJDBgeRJtYbTCWuWEDFIHCGbEDfSCrBdGBcS" ++
    "BBCACBCDBLBABGBcMBDCHBGBbBBDBEBADGBnBCYBYBbEBYBbEBYBbEBYBbEBYBHCbXtScCEbXIAOAWEBObqMbEGF" ++
    "iFGBQCGBBBEFcJbHAeIbSDNCJEAmJbERcFsCbPiGbQsRGBDBBBOBhOLGbPcXEJbtUDBbABBBACABJBDBABAGAEAB" ++
    "ABABCBBBACABABABABABBBACDBGBDBDBABJBQFCBEBQfaAJbnQclfBbGgdTGiNCinPOlbKPxXdqWuVcfYhhYFgfF" ++
    "bonhGjF"⟩,
  ⟨["XIDS", "XID_Start"],
    "cNZGZbVAKAEAFWBbEBrPELOEHABAeZEBBDCBAGABCBABTBdEBfIIgJBbLCAGbOcTbAEDbTbQbJBBdUBAPBHBKCC" ++
    "AQABbDbDdKLAYbGJBEAFVEAJADAXYHKFXBFRbPcGcBDASAHJPPEHCBCVBGBADDDAQANBBCOBKAIFEBCVBGBBBBBB" ++
    "bFDBATCQIBCBVBGBBBEDASAPBXALHCBCVBGBBBEDAbEBBCPARABFDCBDDBBABBDBDCDLWAcAHBCBWBPDAbACCACB" ++
    "bEAEHBCBWBJBEDAbFBBBPBRIBCBbOCAQAFCICYFFRDXBIBACGcGbVBANGcGBBABEBXBABJBAKACEBAVDbGAcLHBb" ++
    "JbBEeLbQUAQFEDDADBHCEMMARbLBAFACbQBmUBDCGBABDCbOBDCbGBDCGBABDCOBcEBDCcObLPQdHCFDxVCQBZFc" ++
    "WDKHRNSOROMBCPbZbJAEAcPdKHbOBAFcRKbEbXbDCELbREZcCWJcAdEAdPbURHcCbDNBKbRbAbJbPCKbJCKFbQCC" ++
    "bPDBFBBDAFhJcMkRCFCbLCFCHBABABABbECcABGBADCBGDDCFEMFCBGeMANAQMdXAEACJBACFGABABABPCDFEEAR" ++
    "bOdzBiUGDDBMbLBAFACcDHAQWJGBGBGBGBGBGBGBGvECZIHECEEdHGCBdLBDFbQBdPRbFbWPtSjtNcMbguEcPbTC" ++
    "kIDPKBUbUQbECdBbNICdYCcOCBBABHVPBCBDBWbDbZObXcKFDABBLbBKWZbCHbUbCAQEBJKEBbOXCBHUWDADbXBA" ++
    "DBCECABAYCCKHCMFCFCFJGBGBbQBNGeKbDqnRMWEbWmnCoBCeBbMGMEFABJBMBEBABBBBBeDbHfIGiJScLCcBbOJ" ++
    "ePABADABABABABeVbKZGZLcDCbEDFCFCFCCbJLBZBSBBBOCNbIeScRcAkHbCDbWbVbFNbDFbLKbDCbJEHBEbQgBS" ++
    "bJEbJEbNIbZMKBOBGBBBKBOBGBBDbZMlYJVKHYFBbPBIcRFCABbRBBDACWKWJbEcNSBBKVKZcScDGBcMAPDBCBbC" ++
    "bQbCDbCbJHBbBbBcBKVKSNReGcUcDbYNbYNbJbMbBJWjQbPGBQCcHbCKAIVbQRbUUbBWMcAcFBCANbSbGYbAbJbD" ++
    "ACAIbIDAMbVODVABAbJRBYTBcLGBABDBOBJHbUbMHCBCVBGBBBEDASAMEbEJBACABbLBAZABAbScASDUCbEbVUBB" ++
    "AhCbUbPDbKbVUAcHbQNAcTbAbLGhDbReMcLbFHCACHBBBXPABAdQHCbMQABAbCAKbNHAVALbTTAScUhRbGbFIBbK" ++
    "RAbXbDeIGBBBbLVAZFBBBbFOAmPSPABMBbHeUAdBbjLdYeGRhNdxKdSPbpFRFZfxQFwKkdDbDcpUvWHbERdARbDS" ++
    "bVQDbFUFSqQbSiDcLeYcWFAcOMcMBBAbCjbZIbvPbPJnfRDBGBBBlEPAbDCCAODIpFdkUeCFMDIHJiwKdGBcSBBC" ++
    "ACBCDBLBABGBcMBDCHBGBbBBDBEBADGBnBCYBYBbEBYBbEBYBbEBYBbEBYBHcsYbEGFkBcJfQbSKGQAmJbDSbRsQ" ++
    "bBiUbDCAtBGBDBBBOBhOcHcPHAbuIDBbABBBACABJBDBABAGAEABABABCBBBACABABABABABBBACDBGBDBDBABJB" ++
    "QFCBEBQgoAclfBbGgdTGiNCinPOlbKPxXdqWuVcfYhhYFgfF"⟩]

end MetricCheck.Text
