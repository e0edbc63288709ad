-- The scripts that characters belong to in Unicode 16.0.
import MetricCheck.Text.Property.Basic

namespace MetricCheck.Text

/-- A script: its names and its characters, and a table of the characters in which a
wider notion of it differs. There a character may belong to several scripts. -/
structure Script where
  value : PropertyValue
  difference : String

def scripts : List Script := [
  ⟨⟨["Adlm", "Adlam"], "hdeUcXEJEB"⟩, "ciHAbGAjwOAfhHA"⟩,
  ⟨⟨["Ahom"], "ebrCbACOEW"⟩, ""⟩,
  ⟨⟨["Hluw", "Anatolian_Hieroglyphs"], "essEwK"⟩, ""⟩,
  ⟨⟨["Arab", "Arabic"],
    "chCEBFBNBCBbFBJLZBeDBbHdCbVjGbEBBFcWBbCdntWeKQnYCdBCcBHAbGPeIEBfEfvNbEcPCcDDdglSDBbAB" ++
    "BBACABJBDBABAGAEABABABCBBBACABABABABABBBACDBGBDBDBABJBQFCBEBQcAB"⟩,
    "chOAOADAbGAKKbAAjuSAfhHAdakABcdKbB"⟩,
  ⟨⟨["Armn", "Armenian"], "bzDbLCbXCCdozJE"⟩, "bdWA"⟩,
  ⟨⟨["Avst", "Avestan"], "dxcYcBDG"⟩, "hBArfSB"⟩,
  ⟨⟨["Bali", "Balinese"], "kfWcYBbX"⟩, ""⟩,
  ⟨⟨["Bamu", "Bamum"], "clcQdJcvcQvW"⟩, ""⟩,
  ⟨⟨["Bass", "Bassa_Vah"], "fhkIbDCF"⟩, ""⟩,
  ⟨⟨["Batk", "Batak"], "knGbZID"⟩, ""⟩,
  ⟨⟨["Beng", "Bengali"],
    "dpODBHCBCVBGBADDCICBCDIAEBBECY"⟩, "baYAcmUBRBhjEABACBBAIAIACAEACCcbaFA"⟩,
  ⟨⟨["Bhks", "Bhaiksuki"], "edoIIBbSBNKbC"⟩, ""⟩,
  ⟨⟨["Bopo", "Bopomofo"], "bcSBrlXbQeIbF"⟩, "bbJABCNArcPCEJBMKDCAGAhNAcztHBkWE"⟩,
  ⟨⟨["Brah", "Brahmi"], "dzaEcZEbJJA"⟩, ""⟩,
  ⟨⟨["Brai", "Braille"], "pdWjV"⟩, ""⟩,
  ⟨⟨["Bugi", "Buginese"], "jwAbBCB"⟩, "cmhZA"⟩,
  ⟨⟨["Buhd", "Buhid"], "iuYT"⟩, "iuNB"⟩,
  ⟨⟨["Cans", "Canadian_Aboriginal"], "hoYyPvOcRdtpQP"⟩, ""⟩,
  ⟨⟨["Cari", "Carian"], "dtyMbW"⟩, "hBAlzMACAfgDA"⟩,
  ⟨⟨["Aghb", "Caucasian_Albanian"], "duxSbZLA"⟩, "bdSAbSAbSA"⟩,
  ⟨⟨["Cakm", "Chakma"], "dzkAcABR"⟩, "dtMJckEJ"⟩,
  ⟨⟨["Cham"], "cmjWcCJNCJCD"⟩, ""⟩,
  ⟨⟨["Cher", "Cherokee"], "hlGdHCFcfjEdB"⟩, "bdOCBAGBWBLB"⟩,
  ⟨⟨["Chrs", "Chorasmian"], "dyxCbB"⟩, ""⟩,
  ⟨⟨["Zyyy", "Common"],
    "AcMbAFbAbUBOBEXAbFArHbMFECTeMAJAGABAyNAGAOADAbGAgAAtWAeZBbvTApPDlEAcgLCcTBhVBBAbvHANA" ++
    "HDBFBCCAbdTLCdIBKDKBORbGcLbLBCCFBbABQbPCEzPWKVbjRjWyDCbFBeAtSdPpMUBABYPHEDdNBDAdMBfRPbGb" ++
    "LJAbWcLbFdCbVAdKgLjtOcLbhsIbHdYCgJJjKAgEApFAOBbezQBiAJWbIBSBDfRABbFbAFbAKKAbTBcMGBGKEjYC" ++
    "EbSDIdCMbZbSiUbAcshWDfvGjPGqTgAeLcIjLKbMCcJDQIBHbDEcIiFTMTMdIJYfFdGBcSBBCACBCDBLBABGBcMB" ++
    "DCHBGBbBBDBEBADGBnBClFCbXhtHcPcYcIbbEbREdVMOCOBOBbKKgRcEZBBNbREIHBOFfYblVEQDMDeOEdQGLEAP" ++
    "LEcDIJGbNIbDCLEBcKnBMNCMDJFcDHOCKGIHfQBdXbsuxBAbEdR"⟩,
    "hBAtWAKABCBAJABAfYAzNAOADAbGAbeXBcwRAcgLCcTBhVBBAbvHANAHDBFBCCAbfOAbFAKACAffDAYBKAEAB" ++
    "AqMPBCCABJBMQFBAEDdNBDAdMBfRPbGbLJAbWbNcEbWPLbZAdKYKEdSbEbroJHlKJjKAgEAbfpMBkBBkWEKAbTBn" ++
    "OCEbSDIqBbAcshWDipWRlrYB"⟩,
  ⟨⟨["Copt", "Coptic", "Qaac"], "bmGNpjKeLFG"⟩, "hBAwMADBBAeEBqdTAdcpCbB"⟩,
  ⟨⟨["Xsux", "Cuneiform"], "efbSbjLdYeGBELhN"⟩, ""⟩,
  ⟨⟨["Cprt", "Cypriot"], "dvzKFCABbRBBDACA"⟩, "dtiMCEbSDI"⟩,
  ⟨⟨["Cpmn", "Cypro_Minoan"], "ekyYdU"⟩, "dtiMB"⟩,
  ⟨⟨["Cyrl", "Cyrillic"],
    "bnKfCCgMivOKgEAcYAgfNbFbtoAdRbheCBdhpGcJbHA"⟩, "baYAcPCBABABACAFAoHBjqNAgeKA"⟩,
  ⟨⟨["Dsrt", "Deseret"], "dumAdB"⟩, ""⟩,
  ⟨⟨["Deva", "Devanagari"], "dkQdCEOCZcijGbFbreMJ"⟩, "baYAcmUBRBhjEbMBBbnAAbzfRJ"⟩,
  ⟨⟨["Diak", "Dives_Akuru"], "eckUGCACHBBBbDBBCLJJ"⟩, ""⟩,
  ⟨⟨["Dogr", "Dogra"], "ecaYcH"⟩, "doMLcidCJ"⟩,
  ⟨⟨["Dupl", "Duployan"], "gmdSeCFMDIHJCD"⟩, "hBAwTBBAYBqiHAfuwPD"⟩,
  ⟨⟨["Egyp", "Egyptian_Hieroglyphs"], "eldGbqRKfxQ"⟩, ""⟩,
  ⟨⟨["Elba", "Elbasan"], "duvWbN"⟩, "hBAwRA"⟩,
  ⟨⟨["Elym", "Elymaic"], "dyyYW"⟩, ""⟩,
  ⟨⟨["Ethi", "Ethiopic"],
    "gvGcUBDCGBABDCbOBDCbGBDCGBABDCOBcEBDCcOCbFDZjvAWJGBGBGBGBGBGBGBGbvkCFCFCFJGBGepyFGBDBBBO"⟩,
    "beCA"⟩,
  ⟨⟨["Gara", "Garay"], "dxzCbLDbCIB"⟩, "chOAOADA"⟩,
  ⟨⟨["Geor", "Georgian"], "ghSbLBAFACbQBDejWbQCCgeAbLBAFA"⟩, "hBAbvLAeiRAfvIAfgGA"⟩,
  ⟨⟨["Glag", "Glagolitic"], "qrGdRgizGGBQCGBBBE"⟩, "hBAwPABAoSACAjXAeiRAfvIAfgYAbtnFA"⟩,
  ⟨⟨["Goth", "Gothic"], "dueAbA"⟩, "hBAwQBCAbOA"⟩,
  ⟨⟨["Gran", "Grantha"],
    "eadSDBHCBCVBGBBBECICBCCCAGAFGCGDE"⟩, "dnTBRByQNgkAABBbECDBbnAAdntQAetWBBA"⟩,
  ⟨⟨["Grek", "Greek"],
    "bhWDBCCDBAEABABCBABTBcKOPjnQEbYEEEdGAmIVCFCbLCFCHBABABABbECcABOBNCFBSCCBIlJAcajEAbgnI" ++
    "dARAdaxRcR"⟩,
    "hBAwMBCABABAKAbUACAbUAjyXBzRA"⟩,
  ⟨⟨["Gujr", "Gujarati"], "dzLCBIBCBVBGBBBECJBCBCCAPDCLHG"⟩, "dnTBRBcidMJ"⟩,
  ⟨⟨["Gong", "Gunjala_Gondi"], "eebWFBBBbKBBBFHJ"⟩, "hBAdhKB"⟩,
  ⟨⟨["Guru", "Gurmukhi"], "duNCBFEBCVBGBBBBBBCABEEBCCDAHDBAHQ"⟩, "dnTBRBcidMJ"⟩,
  ⟨⟨["Gukh", "Gurung_Khema"], "fdrScF"⟩, "doNA"⟩,
  ⟨⟨["Hani", "Han"],
    "rpWZBdKMiFbVABAZIODblCjtNcMbfbJbhsIoBCeBbsiIBMBccoKclfBbGgdTGiNCinPOlbKPxXdqWuVcfYhhYFgfF"⟩,
    "hBArwYPBCCABJBMKDCAGAEDhFAfSPbGbLJAbWbNcEbWPLbZAdKYKEdSbEbroJHbhaZBkWEdchERlrYB"⟩,
  ⟨⟨["Hang", "Hangul"],
    "glKjVllEBjXdPeJbEcNbEbtaNbCyTqnRMWEbWpaIbEDFCFCFCC"⟩, "seRCEJBMQAGAhNAcztHBkWE"⟩,
  ⟨⟨["Rohg", "Hanifi_Rohingya"], "dxwQbNIJ"⟩, "chOAOADAbGAfRA"⟩,
  ⟨⟨["Hano", "Hanunoo"], "itSU"⟩, "iuNB"⟩,
  ⟨⟨["Hatr", "Hatran"], "dwiASBBFE"⟩, ""⟩,
  ⟨⟨["Hebr", "Hebrew"], "ccVcCIbAEFdovWZBEBABBBBBJ"⟩, "bdVB"⟩,
  ⟨⟨["Hira", "Hiragana"], "shDdHGCfpeVlASAbDCymVA"⟩, "seRCEJBMQFBAEBdNDDAdMBcztGBkWEKAbTB"⟩,
  ⟨⟨["Armi", "Imperial_Aramaic"], "dwbWVBI"⟩, ""⟩,
  ⟨⟨["Zinh", "Inherited", "Qaai"],
    "bdOeHkRBrKKbAAbcIDgoXbEtTCBMBGEAGADBhQcLuEBhMbGftXDeDBczuJPQNblNAiSAgfAActcUbTCWuYCRH" ++
    "CGbEDbtlhIjF"⟩,
    "bdOOBBBAPCHBBBQACASAFAEMkRBrKKbAAbcIBhjXCBMBGEAGADBhQBcCABAbdDAftXDeDBdbqJAgfAA"⟩,
  ⟨⟨["Phli", "Inscriptional_Pahlavi"], "dxgQSFH"⟩, ""⟩,
  ⟨⟨["Prti", "Inscriptional_Parthian"], "dxfKVCH"⟩, ""⟩,
  ⟨⟨["Java", "Javanese"], "cmeYcZCJEB"⟩, "cmhZA"⟩,
  ⟨⟨["Kthi", "Kaithi"], "dzfCcOKA"⟩, "doOJnxXAbufEJ"⟩,
  ⟨⟨["Knda", "Kannada"], "etCMBCBWBJBECIBCBDHBGBBDCJBC"⟩, "dnTBRBhjEABBGAXABAcasXF"⟩,
  ⟨⟨["Kana", "Katakana"],
    "skVdLCCjGPiAbUBdJczhEJBbScouCDBGBBBAlBCbYAOD"⟩,
    "bdTAbDAqzTCEJBMQFBAEBdNDDAdMBcztGBkWEKAbTB"⟩,
  ⟨⟨["Hrkt", "Katakana_Or_Hiragana"], ""⟩, ""⟩,
  ⟨⟨["Kawi"], "eerWQBbODbC"⟩, ""⟩,
  ⟨⟨["Kali", "Kayah_Li"], "cmaAbTBA"⟩, "cmbUA"⟩,
  ⟨⟨["Khar", "Kharoshthi"], "dwtCDBBFHBCBbCCCEJHI"⟩, ""⟩,
  ⟨⟨["Kits", "Khitan_Small_Script"], "fjiIAkgXsBbPA"⟩, ""⟩,
  ⟨⟨["Khmr", "Khmer"], "ixKdPCJGJsSbF"⟩, ""⟩,
  ⟨⟨["Khoj", "Khojki"], "dztWRBbU"⟩, "edIJchoIJ"⟩,
  ⟨⟨["Sind", "Khudawadi"], "eaaQcGFJ"⟩, "doMBcidMJ"⟩,
  ⟨⟨["Krai", "Kirat_Rai"], "fiiIcF"⟩, ""⟩,
  ⟨⟨["Laoo", "Lao"], "fmVBBABEBXBABWCEBABGBJCD"⟩, ""⟩,
  ⟨⟨["Latn", "Latin"],
    "cNZGZbVAPAFWBbEBrGbNEjxBbLGbWFDFMBcRcNjVoFANAQMfLBGAbBARbOecTbFbulMdXDcOCBBABHVNbfKbQ" ++
    "BIBDbedQGboKZGZdcFFBbPBIddnPbEGF"⟩,
    "hBAtWAKABCBAJABAbMOBBBAPCHBBBbMAFAEMkRBbvEBcxKAexWAvUAhKAezMAbtuMHvEA"⟩,
  ⟨⟨["Lepc", "Lepcha"], "kpScDDODC"⟩, ""⟩,
  ⟨⟨["Limb", "Limbu"], "jmEbEBLELEADL"⟩, "doNA"⟩,
  ⟨⟨["Lina", "Linear_A"], "dvfSlYJVKH"⟩, "dtiTbS"⟩,
  ⟨⟨["Linb", "Linear_B"], "dsyQLBZBSBBBOCNbIeS"⟩, "dtiMCEbSDI"⟩,
  ⟨⟨["Lisu"], "ckkUbVbumAA"⟩, "baYAQArdKB"⟩,
  ⟨⟨["Lyci", "Lycian"], "dtxGbC"⟩, "mgOA"⟩,
  ⟨⟨["Lydi", "Lydian"], "dwkMZFA"⟩, "hBArfTA"⟩,
  ⟨⟨["Mahj", "Mahajani"], "dznCbM"⟩, "hBAdhKLcidCJ"⟩,
  ⟨⟨["Maka", "Makasar"], "eeqQY"⟩, ""⟩,
  ⟨⟨["Mlym", "Malayalam"], "eyAMBCBbYBCBFEPCZ"⟩, "dnTBRBhjOAXAcasZC"⟩,
  ⟨⟨["Mand", "Mandaic"], "ddGbBCA"⟩, "cjOA"⟩,
  ⟨⟨["Mani", "Manichaean"], "dxaMbMEL"⟩, "cjOA"⟩,
  ⟨⟨["Marc", "Marchen"], "edsQbFCVBN"⟩, ""⟩,
  ⟨⟨["Gonm", "Masaram_Gondi"], "edyEGBBBbRDABBBIIJ"⟩, "doMB"⟩,
  ⟨⟨["Medf", "Medefaidrin"], "fisEdM"⟩, ""⟩,
  ⟨⟨["Mtei", "Meetei_Mayek"], "cmsMWhTbTCJ"⟩, ""⟩,
  ⟨⟨["Mend", "Mende_Kikakui"], "hcuYhOCP"⟩, ""⟩,
  ⟨⟨["Merc", "Meroitic_Cursive"], "dwpKXETCbT"⟩, ""⟩,
  ⟨⟨["Mero", "Meroitic_Hieroglyphs"], "dwoEbF"⟩, "mgRA"⟩,
  ⟨⟨["Plrd", "Miao"], "fizOcWEcEHQ"⟩, ""⟩,
  ⟨⟨["Modi"], "ebhGcQLJ"⟩, "clsAJ"⟩,
  ⟨⟨["Mong", "Mongolian"], "jcIBCABTGdKHbQdscBM"⟩, "jcKBBAdcJAfzTBFD"⟩,
  ⟨⟨["Mroo", "Mro"], "fheUbEBJEB"⟩, ""⟩,
  ⟨⟨["Mult", "Multani"], "dzyUGBABDBOBK"⟩, "dyKJ"⟩,
  ⟨⟨["Mymr", "Myanmar"], "gbOgDcgaYbEdTbFbpaMT"⟩, "cmbUA"⟩,
  ⟨⟨["Nbat", "Nabataean"], "dweIbEII"⟩, ""⟩,
  ⟨⟨["Nagm", "Nag_Mundari"], "hbpObP"⟩, ""⟩,
  ⟨⟨["Nand", "Nandinagari"], "ecqYHCbTCK"⟩, "dnTASBbiMJgbHAIAHAcasRF"⟩,
  ⟨⟨["Talu", "New_Tai_Lue"], "jrCbREZGKDB"⟩, ""⟩,
  ⟨⟨["Newa"], "eanOdNBE"⟩, "dnTBhkCABBJAGABABA"⟩,
  ⟨⟨["Nkoo", "Nko"], "cyIcGCC"⟩, "chOAOADAdppEB"⟩,
  ⟨⟨["Nshu", "Nushu"], "fjiFAyvMpF"⟩, ""⟩,
  ⟨⟨["Hmnp", "Nyiakeng_Puachue_Hmong"], "haeAbSDNCJEB"⟩, ""⟩,
  ⟨⟨["Ogam", "Ogham"], "inObC"⟩, ""⟩,
  ⟨⟨["Olck", "Ol_Chiki"], "ksUbV"⟩, ""⟩,
  ⟨⟨["Onao", "Ol_Onal"], "hbzKbQEA"⟩, "doMB"⟩,
  ⟨⟨["Hung", "Old_Hungarian"], "dxrSbYNbYHF"⟩, "mgOACAfgDAPA"⟩,
  ⟨⟨["Ital", "Old_Italic"], "ducEbJJC"⟩, ""⟩,
  ⟨⟨["Narb", "Old_North_Arabian"], "dwyAbF"⟩, ""⟩,
  ⟨⟨["Perm", "Old_Permic"], "dufGbQ"⟩, "hBAwMAFCKAoDA"⟩,
  ⟨⟨["Xpeo", "Old_Persian"], "duiIbJEN"⟩, ""⟩,
  ⟨⟨["Sogo", "Old_Sogdian"], "dyqIbN"⟩, ""⟩,
  ⟨⟨["Sarb", "Old_South_Arabian"], "dwwUbF"⟩, ""⟩,
  ⟨⟨["Orkh", "Old_Turkic"], "dxmUcU"⟩, "mgOAfgFA"⟩,
  ⟨⟨["Ougr", "Old_Uyghur"], "dyuQZ"⟩, "cjOAdusVA"⟩,
  ⟨⟨["Orya", "Oriya"], "eeJCBHCBCVBGBBBECICBCCHCEBBECR"⟩, "dnTBRBhjOAXA"⟩,
  ⟨⟨["Osge", "Osage"], "dusUbJEbJ"⟩, "bdPACAGAcYA"⟩,
  ⟨⟨["Osma", "Osmanya"], "duqYbDCJ"⟩, ""⟩,
  ⟨⟨["Hmng", "Pahawh_Hmong"], "fhmEcRKJBGBUFS"⟩, ""⟩,
  ⟨⟨["Palm", "Palmyrene"], "dwdCbF"⟩, ""⟩,
  ⟨⟨["Pauc", "Pau_Cin_Hau"], "edcAcE"⟩, ""⟩,
  ⟨⟨["Phag", "Phags_Pa"], "clsQcD"⟩, "jcKBBAdcJAfzUA"⟩,
  ⟨⟨["Phnx", "Phoenician"], "dwjGbBDA"⟩, ""⟩,
  ⟨⟨["Phlp", "Psalter_Pahlavi"], "dxhWRHDMG"⟩, "cjOA"⟩,
  ⟨⟨["Rjng", "Rejang"], "cmbWbJLA"⟩, ""⟩,
  ⟨⟨["Runr", "Runic"], "ioUcWDK"⟩, "irRC"⟩,
  ⟨⟨["Samr", "Samaritan"], "daUbTCO"⟩, "rmVA"⟩,
  ⟨⟨["Saur", "Saurashtra"], "clvCcRIL"⟩, ""⟩,
  ⟨⟨["Shrd", "Sharada"], "dzoYdR"⟩, "dnTAhkFABACBCAJACAcatEFCA"⟩,
  ⟨⟨["Shaw", "Shavian"], "dupCbV"⟩, "hBA"⟩,
  ⟨⟨["Sidd", "Siddham"], "ebcIcBCbL"⟩, ""⟩,
  ⟨⟨["Sgnw", "SignWriting"], "gwtKzBPEBO"⟩, ""⟩,
  ⟨⟨["Sinh", "Sinhala"], "fcZCBRDXBIBACGDAEFBABHGJCCdulGT"⟩, "doMBhkMA"⟩,
  ⟨⟨["Sogd", "Sogdian"], "dysEbP"⟩, "cjOA"⟩,
  ⟨⟨["Sora", "Sora_Sompeng"], "dziEYHJ"⟩, ""⟩,
  ⟨⟨["Soyo", "Soyombo"], "ecxSdE"⟩, ""⟩,
  ⟨⟨["Sund", "Sundanese"], "kkUcLjWH"⟩, ""⟩,
  ⟨⟨["Sunu", "Sunuwar"], "edlWbHOJ"⟩, "bdOBBAJACAbCADA"⟩,
  ⟨⟨["Sylo", "Syloti_Nagri"], "clqEbS"⟩, "doMBeYJ"⟩,
  ⟨⟨["Syrc", "Syriac"], "cqYNBcHCCkMK"⟩, "bdRBCBBAYCHBBBbcCAOBCAbGAKKbAAixRABA"⟩,
  ⟨⟨["Tglg", "Tagalog"], "isMVJA"⟩, "iuNB"⟩,
  ⟨⟨["Tagb", "Tagbanwa"], "iwEMBCBB"⟩, "iuNB"⟩,
  ⟨⟨["Tale", "Tai_Le"], "jpGbDCE"⟩, "bdOBFBDAezZJ"⟩,
  ⟨⟨["Lana", "Tai_Tham"], "jxGcKBbCCKGJGN"⟩, ""⟩,
  ⟨⟨["Tavt", "Tai_Viet"], "cmoUcOYE"⟩, ""⟩,
  ⟨⟨["Takr", "Takri"], "ebmEcFGJ"⟩, "doMBcidMJ"⟩,
  ⟨⟨["Taml", "Tamil"],
    "ejIBBFDCBDDBBABBDBDCDLEEDCBDCAGAOUealHbXNA"⟩, "dnTBRBhjOAcbbKAboeFABAcDB"⟩,
  ⟨⟨["Tnsa", "Tangsa"], "fhgQdABJ"⟩, ""⟩,
  ⟨⟨["Tang", "Tangut"], "fjiEAbFjbZIbdNtSI"⟩, "seAPtBA"⟩,
  ⟨⟨["Telu", "Telugu"], "eoEMBCBWBPCIBCBDHBBCCACDCJHI"⟩, "dnTBRBhjJBBABAXA"⟩,
  ⟨⟨["Thaa", "Thaana"], "cvWbX"⟩, "chOAOBCAcMJdptGAKA"⟩,
  ⟨⟨["Thai"], "fhXcFFbB"⟩, "baYAbAAbRAbTA"⟩,
  ⟨⟨["Tibt", "Tibetan"], "frScTBbJEbMBbJBOBGEB"⟩, "seYD"⟩,
  ⟨⟨["Tfng", "Tifinagh"], "rcYcDHBOA"⟩, "bdQABABDZA"⟩,
  ⟨⟨["Tirh", "Tirhuta"], "easMcTIJ"⟩, "dnTBRBhjJAMAPAcasZJ"⟩,
  ⟨⟨["Todr", "Todhri"], "dvdGbZ"⟩, "bdPACACAJABAcWA"⟩,
  ⟨⟨["Toto"], "hatKbE"⟩, "baYA"⟩,
  ⟨⟨["Tutg", "Tulu_Tigalari"], "eaiQJBACABbLBJBACABDBJBBIB"⟩, "exAJgbQABAcasXFhFA"⟩,
  ⟨⟨["Ugar", "Ugaritic"], "duhCbDBA"⟩, ""⟩,
  ⟨⟨["Zzzz", "Unknown"], ""⟩, ""⟩,
  ⟨⟨["Vaii", "Vai"], "ckmQlN"⟩, ""⟩,
  ⟨⟨["Vith", "Vithkuqi"], "dvaEKBOBGBBBKBOBGBB"⟩, ""⟩,
  ⟨⟨["Wcho", "Wancho"], "havGcFFA"⟩, ""⟩,
  ⟨⟨["Wara", "Warang_Citi"], "echCdEMA"⟩, ""⟩,
  ⟨⟨["Yezi", "Yezidi"], "dylKbPBCCB"⟩, "chOAOADAcMJ"⟩,
  ⟨⟨["Yiii", "Yi"], "cipKbsUDcC"⟩, "seRBFJCHiPAdaeFE"⟩,
  ⟨⟨["Zanb", "Zanabazar_Square"], "ecuQcT"⟩, ""⟩]

/-- The characters of a script. -/
def script? (name : String) : Option CharSet := setNamed? (scripts.map Script.value) name

/-- The characters of a script in the wider notion. -/
def scriptExtension? (name : String) : Option CharSet :=
  (scripts.find? fun s => s.value.isNamed name).map fun s =>
    .symmDiff s.value.set (.ofTable s.difference)

end MetricCheck.Text
