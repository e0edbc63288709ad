-- The general categories of characters in Unicode 16.0.
import MetricCheck.Text.Property.Basic

namespace MetricCheck.Text

/-- The categories, each character in one of them. Surrogates are no characters. -/
def categories : List PropertyValue := [
  ⟨["Lu", "Uppercase_Letter"],
    "cNZdXWBGbHABABABABABABABABABABABABABABABABABABABABABABABABABABABACABABABABABABABACABABA" ++
    "BABABABABABABABABABABABABABABABABABABABABBBABADBBABBBCCDBBBCDBBBBABABBBACABBBCBABBDAHACA" ++
    "CACABABABABABABABACABABABABABABABABACACABCBABABABABABABABABABABABABABABABABABABABABABABA" ++
    "BABABABABABAHBBBCABDBABABABAlDABADAIAGABCBABBBQBIbJACCDABABABABABABABABABABABAFACABBCbYb" ++
    "WABABABABABABABABABABABABABABABABAJABABABABABABABABABABABABABABABABABABABABABABABABABABA" ++
    "BBBABABABABABACABABABABABABABABABABABABABABABABABABABABABABABABABABABABABABABABABABABABA" ++
    "BABABABABABABABABABABACbLehDbLBAFAbbUdHdgLAGbQCCmIABABABABABABABABABABABABABABABABABABAB" ++
    "ABABABABABABABABABABABABABABABABABABABABABABABABABABABABABABABABABABABABABABABABABABABAB" ++
    "ABABABABABABABABABABABAJABABABABABABABABABABABABABABABABABABABABABABABABABABABABABABABAB" ++
    "ABABABABABABABABABABABABABABABABAJHIFKHIHIFLABABABAIHcUDMDMDMELDkCAEADCCCCADEGABABABDCDK" ++
    "BFAcJAdzGbVbWABCCABABABDBACAICBABABABABABABABABABABABABABABABABABABABABABABABABABABABABA" ++
    "BABABABABABABABABABABABABABABABABABABABAIABAEAbtyJABABABABABABABABABABABABABABABABABABAB" ++
    "ABABABATABABABABABABABABABABABABABAfFABABABABABABADABABABABABABABABABABABABABABABABABABA" ++
    "BABABABABABABABABABABABAKABABBBABABABAEABACABADABABABABABABABABABABEBEBABABABABABABABDBA" ++
    "BBDAFABABABAYAbhaHZbuZbNfGbJgAKBOBGBBcqCbYgBVegObFbgjWbFbmmQZbAZbAZbAABBCACBCDBHbAZbABBD" ++
    "CHBGbBBBDBEBADGbBZbAZbAZbAZbAZbAZbEYbHYbHYbHYbHYbHAgnLbH"⟩,
  ⟨["Ll", "Lowercase_Letter"],
    "dTZcGAbPXBHBABABABABABABABABABABABABABABABABABABABABABABABABABABABBBABABABABABABABBBABA" ++
    "BABABABABABABABABABABABABABABABABABABABABACABABCCABACADBEACADCCACABABACABBBACADABACBCCGA" ++
    "CACABABABABABABABABBBABABABABABABABABBCABADABABABABABABABABABABABABABABABABABABABABABABA" ++
    "BABABABABABABGCACBBAEABABABABcQCZhLABADADCSAbBbIBBDCBABABABABABABABABABABABEBACACBbZbVBA" ++
    "BABABABABABABABABABABABABABABABAJABABABABABABABABABABABABABABABABABABABABABABABABABABACA" ++
    "BABABABABABBBABABABABABABABABABABABABABABABABABABABABABABABABABABABABABABABABABABABABABA" ++
    "BABABABABABABABABABAbWbOehBbQCCbdGFdfUIBAeNbRcLMBbHdYABABABABABABABABABABABABABABABABABA" ++
    "BABABABABABABABABABABABABABABABABABABABABABABABABABABABABABABABABABABABABABABABABABABABA" ++
    "BABABABABABABABABABABABABIBABABABABABABABABABABABABABABABABABABABABABABABABABABABABABABA" ++
    "BABABABABABABABABABABABABABABABABABIIFKHIHIFKHIHINCHIHIHIEBBGADCBBIDCBIHKCBBkOADBDAbBAEA" ++
    "EACBIDEAcBAebBbVBADBBABABAEABBBFFABABABABABABABABABABABABABABABABABABABABABABABABABABABA" ++
    "BABABABABABABABABABABABABABABABABABABABABABBHABAEAMbLBAFAbtwDABABABABABABABABABABABABABA" ++
    "BABABABABABABABABATABABABABABABABABABABABABABAfFABABABABABABCBABABABABABABABABABABABABAB" ++
    "ABABABABABABABABABABABABABABABABABABHBABACABABABABAEABACABCBABABABABABABABABABAFAFABABAB" ++
    "ABABABABAEABACADABABABABABAbAADAbfPbQFIHdBbeaIGMEboZZbvHbNfGbJfZKBOBGBBcrBbYeVVegObFbgjW" ++
    "bFbmmKZbAGBRbAZbADBABGBKbAZbAZbAZbAZbAZbAZbAZbAZbAbBbCYBFbAYBFbAYBFbAYBFbAYBFBAcsYJBTGFd" ++
    "uDbH"⟩,
  ⟨["Lt", "Titlecase_Letter"], "rLACACAbMAlfHHIHIHMAPAbVA"⟩,
  ⟨["Lm", "Modifier_Letter"],
    "baMRELOEHABAfDAFAsKAiWAgIBkJBEAbFAJADAgEAgLAbvOAeXAvTAcpMAeDAxNArWFgScKNAbIbKbaNANAQMem" ++
    "XBjHAhJAsBAbREFAdTBdPCbqbUAbwCFkKAeKAbCBeRIdCAXAeBCDBsBAWAfHAeEAVBdZDJAbfvIAbTBczOFBbPBI" ++
    "ccXAbGAbjnSDtOCbOBvEMcMBBAygQDBGBBsgNcJhTGbkFAbrBA"⟩,
  ⟨["Lo", "Other_Letter"],
    "gOAPAjWAEDiABbfUbAEDbTbFBJbJBBdUBAYBKCCAQABbDbDdKLAYbGVVbQYHKFXBFRbOcHcBDASAHJQOEHCBCVB" ++
    "GBADDDAQANBBCOBKAIFEBCVBGBBBBBBbFDBATCQIBCBVBGBBBEDASAPBXALHCBCVBGBBBEDAbEBBCPARABFDCBDD" ++
    "BBABBDBDCDLWAcAHBCBWBPDAbACCACBbEAEHBCBWBJBEDAbFBBBPBRIBCBbOCAQAFCICYFFRDXBIBACGcGbVBBMF" ++
    "cHBBABEBXBABJBBJACEXDbGAcLHBbJbBEeLbQUAQFEDDADBHCEMMAeJmQBDCGBABDCbOBDCbGBDCGBABDCOBcEBD" ++
    "CcObLPeJxVCQBZFcWGHHRNSOROMBCPbZbOAcPbIBcAHECbHBAFcRKbEbXbDCELbREZcCWJcAgUbURHcCbDNBKbRb" ++
    "AbJbPCKbDeJDBFBBDAbpQDenVcDYWJGBGBGBGBGBGBGBGvFAcBAEdHIABdLEAFbQBdPRbFbWPtSjtNcMbfcEBbrY" ++
    "cPbNIkHEPKBcOAbXcRgNAdZADGBCBDBWbDbZObXcKFDABBLbBKWZbCHbUbTECIKEBbOXCBHUPBFDADbXBADBCECA" ++
    "BAYBDKHAOFCFCFJGBGfPbIbDqnRMWEbWmnCoBCeBcPABJBMBEBABBBBBeDbHnYScLCcBbOLeMEBfEeBJBbSCbEDF" ++
    "CFCFCCbJLBZBSBBBOCNbIeSoZbCDbWbVbFNTBHGbLKbDCbJEHeYcZdUbNIbZdObZMlYJVKHfWFCABbRBBDACWKWJ" ++
    "bEcNSBBKVKZcScDGBcMAPDBCBbCbQbCDbCbJHBbBbBcBKVKSNReGcUhBbJbMDBAlSbPGBQCcHbCKAIVbQRbUUbBW" ++
    "McAcFBCANbSbGYbAbJbDACAIbIDAMbVODVABAbJRBYTBcLGBABDBOBJHbUbMHCBCVBGBBBEDASAMEbEJBACABbLB" ++
    "AZABAbScASDUCbEbVUBBAhCbUbPDbKbVUAcHbQNAcTbAbLGhDbRiDHCACHBBBXPABAdQHCbMQABAbCAKbNHAVALb" ++
    "TTAScUhRbGbFIBbKRAbXbDeIGBBBbLVAZFBBBbFOAmPSPABMBbHeUAdBbjLiWhNdxKdSPbpFRFZfxQFwKkdDbDcp" ++
    "UvWHbERdARbDSbVbZUFSqTbNpPcWFAgTjbZIbvPbPJngHlEPAbDCCAODIpFdkUeCFMDIHJnbCAtHbSbHAmJbDSbR" ++
    "sQbAiVbDCAtBGBDBBBOBhObzNDBbABBBACABJBDBABAGAEABABABCBBBACABABABABABBBACDBGBDBDBABJBQFCB" ++
    "EBQgoAclfBbGgdTGiNCinPOlbKPxXdqWuVcfYhhYFgfF"⟩,
  ⟨["Mn", "Nonspacing_Mark"],
    "bdOeHkPEkFbSBABBBBBAcUKbWUQAdXGCFCBBDbJAbEbAdNKcGIJAYDBIBCBEbRCcHIbQXBbFcDABAEHEADGKBbD" ++
    "AcGAEDIAUBbAACBcFAEBEBCCDAbEBDALBcFAEEBBEAUBWFBAcGACABDIAHBLBbEAcJAMAbYADAcDABCFCBDHBLBb" ++
    "DAcGACAGAFBUBbCBcFBEDIAUBbDAcUAHCBAdMACGMHdUACILGcVBbBABABAcDNBEBBFKBbJJAdYDBFBBCBZBECQD" ++
    "NACBGAPAbbBCbkKCbDBbEBbEBcMBBGIACKJAbTCBAeNBbIAeOCEBJAGCiLBCAcGABGBABACHGJCAbWNBPbXDbWAB" ++
    "EBAFAbOIMBbGDCBBCcEABBDABCcGHCBfWCBMBGEAGADBhQcLbbSMEADLeoCCfLAdSbFvIDeDBbsqEAEJbGBdCBkM" ++
    "ADAEAZBFAfVBbARNAbMHZKbUCbWACDCBbNAcPFCBCBMAIAbVAbZABCCBFBBAbQBIAjEACAEAbdzSAbcJPQPblLAi" ++
    "SAfTEcmGCBBFDbOCEAgJBwBDcNEmFBdBDcSKbXDeTAcCObPACBKCbXDCBHAcJCbKEBHcKAMBcAIKDCAdRCCABBGA" ++
    "CAgBADHVBcFBDAbLGDEcSFNABABAOBdHHCCBAXAdGFBAEBBBjEDGBBBbBBdHHCABBeCABACFBAdXABACDBEjZIBB" ++
    "jWBBAEAfODCBEAbGJbOFCDIAJFCCbUMBBpQGBFBAdEVCGBBBBeSFDABBBGBAcUBDABAnJBLBcAEFABAXAhxTAGOq" ++
    "yYLDCdsAEcHGboIAcLDdDAbdbKBgyZbTCWuYCRHCGbEDfSCcyDcCEbXIAOAWEBOcaIGBQCGBBBEdWAgEGoLAcJDt" ++
    "ODjUBbcIGeFGbtciVjF"⟩,
  ⟨["Mc", "Spacing_Mark"],
    "dkTAcDACCIDBBbYBcGCGBCBKAbRAcGCcOAcGCIABBcBBcGABAGBCBKAdYBBBDCBCKAbPCcJDcJBcGABECBBBJBb" ++
    "CAOBcGCFCBCKAbQBcXCGHSBmSBcLAgPBEAGACBZBKCCGVBCFCAKCclSAbEAeZAHHBBnIDCCEBBFiQBcGABAJABBI" ++
    "FfPAbWAFABEBBcJAbEAEBCAcIACCBADBbWHIBgPAVAhhEBbtlBBCAdKBbYPfMBbVAbWBEBCCeGBCBYAbTABAeFAC" ++
    "BFAjDBBBBBBAblxJABAeXAbTCEBeLAYBcHAbWCJBNAdPCDBBAgOCbFBcGBBDCBCCJAKBdGCHACABDBBBAdXCIBDA" ++
    "eCCGABDCAjDCGDCAeJCIBBAeFABBGAdZABBEAkBCJAjNFBBEACABAfMCIDEAdGAbDBcKApRAOAeCAHACAiFEEBBA" ++
    "nMBMAbWBIBBAyyYCfjGcCeABbkxNBGF"⟩,
  ⟨["Me", "Enclosing_Mark"], "bsQBikQAciGDBCbyoXC"⟩,
  ⟨["Nd", "Decimal_Number", "digit"],
    "bWJciOJfEJhQJpWJeOJeOJeOJeOJeOJeOJeOJeOJeOJdSJeOJcSJkSJcSJctQJbMJlOJeYJgKJGJhAJdIJfEJGJ" ++
    "caeOJbaCJbMJhQJWJdIJpQJbfmCJccKJdfYJGJbeQJeYJcIJfOJkSJnEJeOJoKJdYJGTcYJqGJdYJzMJdIJjMJcS" ++
    "JqGJyyGJdmCJdIJfEJuOJbkdYJecQbXdnCJqGJtIJjNJbgVJhbAJ"⟩,
  ⟨["Nl", "Letter_Number"], "irUCdyTbICDfmSAZIOCbsyLJbifGcArSAIAfEEmeSeG"⟩,
  ⟨["No", "Other_Number"],
    "gWBFACCdmRFoMFeQCfDGiJGRIqRJbpLTbrVJsMAcmVADFGJhQPbPAbbYcHdAVyGbDcbHAbtCDfIJbEHBObGJbNO" ++
    "bsmIFbhqNbScNDRBnDbAbKDbzGHZGbNIcXEWFgEBCPCbTcMIcABbECcXEeAHYHbPGmSFnObEgCJbQDeIGfEToPTb" ++
    "zXBqOIbhNSbgTUbcpQGbeSWblyFTMTeEYibUIbjTcGBCBDcYbSBOblAM"⟩,
  ⟨["Pc", "Connector_Punctuation"], "dRAmbVBTAdgaOBYCjFA"⟩,
  ⟨["Pd", "Dash_Punctuation"],
    "bTAcaUAbZAfkJAbnPAdbDFfhXACAbFBEAbCArEATAeHAczwABbLAKAgNAflOAmGA"⟩,
  ⟨["Ps", "Open_Punctuation"],
    "bOAbYAbFAfpEABAcuOAdpMADAbMAcDAPAyKABAbEAbpUABABABABABABAdCAbGABABABABApOABABABABABABAB" ++
    "ABABABAcMABAbHAboVABABABAZASABABABAqMABABABABADABABABACAczrTAiHAbDABABABABABABABADARABAB" ++
    "AgOAbYAbFADACA"⟩,
  ⟨["Pe", "Close_Punctuation"],
    "bPAbZAbFAfpDABAcuOAdrDAcDAPAyKABAbEAbpUABABABABABABAdCAbGABABABABApOABABABABABABABABABA" ++
    "BAcMABAbHAboVABABABAbSABABABAqMABABABABADABABABACBczrQAiJAbDABABABABABABABADARABABAgOAbZ" ++
    "AbFACACA"⟩,
  ⟨["Pi", "Initial_Punctuation"], "gPAlxKACBCAZAffSABAEACAPADA"⟩,
  ⟨["Pf", "Final_Punctuation"], "hFAlwVADAbCAffSABAEACAPADA"⟩,
  ⟨["Po", "Other_Punctuation"],
    "bHCBCCABABBKBDBbBAcQAFAOBHAbbAAIArYFbPAcCACACAbSBUBBBNABCcWDdYAbRNiZCcCObFAkBBKAfKAeQAe" ++
    "RApAAMAoDAdMAKBgMOBAeIAcWEEBeHFgPAxOIbdTAeUCcTBgBCBCbLFBDmBBiIBeYGBFgEBKGbCCeUDcHEcKBcMH" ++
    "LAbgCBIHIICDCCDKBABJeuCDBBeIAfNBECCACIBBBACBKEBJCDBABMCCqMCcFAhHAbryGBkJCdVAKAeLFoQDdIBb" ++
    "OCBAbXBbVAdTMQBeUDeWBQBjPAbfcUGCAWAUBCDDCBDHCGABBfTCBCCABABBKBDBbBAbKACBpUCzSAbWApYAbcPA" ++
    "hRAbFAkMIbMAeIGcOGdLDbkQEbSDhHGeFBBDeWDbWBdBDEANABCdKFeDAlMBBBeKEKBBAeAAjQWeBCbCMcYAfACj" ++
    "SAkECfZAdOHdFCBEdPJiHAdREbQByVBcWMgTAbrSEejCBwdVBfDAcNEIAvGClJDmPAbdbOAliLEeiTAbhEB"⟩,
  ⟨["Sm", "Math_Symbol"],
    "bRAQCcJABAbTAEAbLAbFAbdMAuHCjyHANAbNCNCfJAbNEGAcQEFBEACACAHAbFBCABAbFkHbGBdMAbEYbOFsBAJ" ++
    "AcCHeHAmYECbEKPjWfAWcKEbFCjXbWUCFdasQAbfSABCgIAQCcJABAfBAGDfeFBcyeZAZAbFAZAbFAZAbFAZAbFA" ++
    "ZAiuEB"⟩,
  ⟨["Sc", "Currency_Symbol"],
    "bKAeVDbwJAeTAtEBtEBHAjLAkDAwJAdqPAdiIbGbzhVAbgmLAeEAfYAiLBDBmcSDcvxEAdrKA"⟩,
  ⟨["Sk", "Modifier_Symbol"],
    "dQABAcTAGAEADAuBDMNFGBABQeNAOBbxIAiuMABCLCNCNCNBghOBbsvRWJBdZBblOAOBbekKQbiHABAgGAdolJE"⟩,
  ⟨["So", "Other_Symbol"],
    "gKACAEABAblPAkGBeXBhYAKATBjNAtVAoJAfAFBAfCAhZAbPApBCPABCCFUABABAfDHBFBBFDhPBbcYJbbVAbbU" ++
    "AgBbHnPJJIccHBBDBBKABBGFBABABAEALBOABBBAcGBJECDBBBBBGBbECBBABbEkIHETCGCdCBbDZbNGcTWKdDcZ" ++
    "WhABIBcBIeGBjNbSbRcMjVtSbVVBGbMCbFBeAiVFnTBbUZBdKMiFbAPEANBMAVBGBmYBEJbGbLJAQbELbDIAPbFK" ++
    "bMPmHjtOcLbguIcCbhHDKBBAwBCbfjAPeXAbTCsQADAEBNBmBIcFQCCBMDAbVbSclUBwTAesSAdgNHEQbcnIDFAb" ++
    "euWAfvNjFQqTgAeLcIjLKbMCcHFCWBHbDEcIVcNDAhEdIbtXtRcDDbYHBNBBcoUAehWAeZAbbTbREdVMOCOBOBbK" ++
    "XgEcEbCNbREIHBOFfYjQFbbZEQDMDeOEdQGLEAPLEcDIJGbNIbDCLEBcKnBMNCMDJFcDHOCKGIHfQBdN"⟩,
  ⟨["Zs", "Space_Separator"], "bGAeXAihJAdpNKbKAbVAfxWA"⟩,
  ⟨["Zl", "Line_Separator"], "meQA"⟩,
  ⟨["Zp", "Paragraph_Separator"], "meRA"⟩,
  ⟨["Cc", "Control", "cntrl"], "AbFdRbG"⟩,
  ⟨["Cf", "Format"],
    "gRAcaKFWAhKAbXAoUBdCAftJAdaQEbAEbXEBJdghJAjPCgiZAPAnkKPbzqUDhwXHbtkzMAbEdR"⟩,
  ⟨["Co", "Private_Use"], "dgvOjmDcahxOdsyNCdsyN"⟩,
  ⟨["Cn", "Unassigned"],
    "biEBGDHABAUApHAbMBbYBDAcDHbBDGKkKAcIBdXNcHBbXBPAbCBBALEbFACEjDAIBCBWAHABCEBJBCBEHBDCAFB" ++
    "ZBDAGDCBWAHACACACBBAFDCBDCBGEABGRJDAJADAWAHACAFBKADADBBOEBMGHADAIBCBWAHACAFBJBCBDGDDCAFB" ++
    "SJCAGCDAECCABACCCCDCMDFCDAEBBFBNVENADAXAQBJADAEGCADBBBEBKGWADAXAKAFBJADAEGCFCAEBKADLNADA" ++
    "bZADAGDQBbAADASCYAJABBHCBDGABAIFKBDLcGDbDbKCABAFAYABAXBFABAHAKBEbFcUAbKDbNAbKAPANbKhQABE" ++
    "BBoNAEBHABAEBbPAEBbHAEBHABAEBPAcFAEBcPBbGCbAFdIBGBzTCdLGWIYIULNADACLdQBKFKFbAFdLGbREcSJb" ++
    "FAMDMDBCbQBFKbSDbAFLCcKBcNAbDBLFKFOBbFbWcZAgKHcICPCcKEbRBLHbREuOBGBbMBGBIABABABAbFBcBAPA" ++
    "OBGATBDAJAdXAMBbBANCbHObHOfKDzQVLUcrSBbGAnLEbTABEBBcEGCNYIHAHAHAHAHAHAHAHAeWbHbAAdLLiGZd" ++
    "CAdIBdZEbRAdQAdIIbWAbriRCcDInKThCHhYBCABAIUcHCKFcEHcSHMFeMKbECdAALDbHAcDIOBKBdZXbCJGBGBG" ++
    "IHAHAcIDeWBKFqnSLXDbXDnbABeCbLHLFEbAAFABACACAeVPrDBcCGBbFbQFbZATAEDFAfFBBAhICGBGBGBDCHAH" ++
    "JFBMAbAATACAPBObHeTEDDbTCdKANCBbUbUeZbDCbXObCDbKIbEEbREbEAbLDObPgCBKFbKDbKDbOHcAKMAPAHAC" ++
    "ALAPAHACCcALlZIWJIXGAbQAJcQGBBAbSACCBBXAcUHJbVTACEbHCbBEBcLcEDUBbYACEIADAbDBDDKGJGcMbFbN" ++
    "DMIcCCbDBbBEbAGELHdBcVcCbZMbZGbUHKFbMCbDHChZbFAbQADBCPDcCbSHbQVbAbLbCTXIdADbKIcQJBBZGKFc" ++
    "BASHbNIdSAUKSAbVcJHABAEAPALFcHEKFEAIBCBWAHACAFAKBCBDBBFBEHBHCFKKABBBAbMAKABBBAEAKACHCbCd" ++
    "OAFbDcUHKgJcCBbMbHcRKKFNScGFKFUbBbBBPDXhCcIdVdFLIBBBIACAbEACBMIKcRIBbUBLbAcUHdFMcVGKgZbI" ++
    "NKFJAbTAOJbDCbGBWAOcUHACAbSCBACAJHKFGACAbLACAGGKlXZGRAbPCbDdGBObYMbjNdXeHAFKhOdxJdVMbqSJ" ++
    "fxREwLkdCcGcoRvXGbFAKDdDAKFbEBGJcSJKAHAVETqPcGhPdNdWcXDcFGRcLFKCNjcAHbvQbOKnfQEAHACAlFOB" ++
    "bCDBBNEHpGdkTeDENCJGKBIfvFjQFqUcXbUBXIeMcHjMJbNBhMUcSeRULULdJIZfEdHAcTACBBBCBEAMABAHAcNA" ++
    "EBIAHAbCAEAFABCHAnCBlGBbbAOFAPbqLbFFGiEHARBHACAFEcKbGBeHbTCOBKDCmHbFQcGEBrVbQiFbRDBsLHAE" ++
    "ACAPAhPBQbOcYDKDCbeEcQcXcJhLEAbBACABBBAKAEABABFBDBABABADACABBBABABABABACABBEAHAEAEABAKAR" ++
    "EDAFARbZCkJbSDdWLPBPAPAbLJgScDbDMbSDJGCNGfXblWDRCNCePDdRFMDBOMDcEHKFbOHbEBMDCcJnCLOBNCKE" ++
    "cEGPBLFJGfRAdYbnPclfCbFgdUFiOBinQNlbLOxYdqVuWcfXhhZEgfGbomxKBbDdSeXjGdsfNdsyOBdsyOB"⟩,
  ⟨["Cs", "Surrogate"], ""⟩]

/-- Categories taken together. -/
def categoryGroups : List (List String × List String) := [
  (["L", "Letter"], ["Lu", "Ll", "Lt", "Lm", "Lo"]),
  (["LC", "Cased_Letter"], ["Lu", "Ll", "Lt"]),
  (["M", "Mark", "Combining_Mark"], ["Mn", "Mc", "Me"]),
  (["N", "Number"], ["Nd", "Nl", "No"]),
  (["P", "Punctuation", "punct"], ["Pc", "Pd", "Ps", "Pe", "Pi", "Pf", "Po"]),
  (["S", "Symbol"], ["Sm", "Sc", "Sk", "So"]),
  (["Z", "Separator"], ["Zs", "Zl", "Zp"]),
  (["C", "Other"], ["Cc", "Cf", "Co", "Cn"])]

/-- The characters of a category or a group of them. -/
def category? (name : String) : Option CharSet :=
  (setNamed? categories name).orElse fun _ =>
    (categoryGroups.find? fun g => g.1.any (sameName name)).map fun g =>
      .unions (g.2.filterMap (setNamed? categories))

end MetricCheck.Text
