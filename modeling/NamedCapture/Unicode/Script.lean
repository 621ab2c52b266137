/-
NamedCapture/Unicode/Script.lean

Scripts: the characters that belong to a script, and those that are used with
it (its extension).
-/
import NamedCapture.Unicode.CharSet

namespace NamedCapture

/-- A script with its names, its characters and the characters used with it. -/
structure Script where
  names : List String
  table : String
  extensionTable : String

namespace Script

def characters (s : Script) : CharSet := .ofTable s.table

def extension (s : Script) : CharSet := .ofTable s.extensionTable

/-- Every script; the first name is the four-letter code. -/
def all : List Script := [
  ⟨["Adlm", "Adlam"],
    "hdeUcXEJEB",
    "ciHAbGAjwOAfhHAglrIcXEJEB"⟩,
  ⟨["Ahom", "Ahom"],
    "ebrCbACOEW",
    "ebrCbACOEW"⟩,
  ⟨["Hluw", "Anatolian_Hieroglyphs"],
    "essEwK",
    "essEwK"⟩,
  ⟨["Arab", "Arabic"],
    "
    chCEBFBNBCBbFBJLZBeDBbHdCbVjGbEBBFcWBbCdntWeKQnYCdBCcBHAbGPeIEBfEfvNbEcPCcDDdglSDBbABBBACABJ
    BDBABAGAEABABABCBBBACABABABABABBBACDBGBDBDBABJBQFCBEBQcAB",
    "
    chCEBiGBbHdCbVjGbEBBFcWBbCivNAfhHAczrAeKQrCCcBHAbGPeIEBfEbmHbBeiEbEcPCcDDdglSDBbABBBACABJBDB
    ABAGAEABABABCBBBACABABABABABBBACDBGBDBDBABJBQFCBEBQcAB"⟩,
  ⟨["Armn", "Armenian"],
    "bzDbLCbXCCdozJE",
    "bdWAvGbLCbXCCdozJE"⟩,
  ⟨["Avst", "Avestan"],
    "dxcYcBDG",
    "hBArfSBdfqCcBDG"⟩,
  ⟨["Bali", "Balinese"],
    "kfWcYBbX",
    "kfWcYBbX"⟩,
  ⟨["Bamu", "Bamum"],
    "clcQdJcvcQvW",
    "clcQdJcvcQvW"⟩,
  ⟨["Bass", "Bassa_Vah"],
    "fhkIbDCF",
    "fhkIbDCF"⟩,
  ⟨["Batk", "Batak"],
    "knGbZID",
    "knGbZID"⟩,
  ⟨["Beng", "Bengali"],
    "dpODBHCBCVBGBADDCICBCDIAEBBECY",
    "baYAcmUBRBbADBHCBCVBGBADDCICBCDIAEBBECYhdHABACBBAIAIACAEACCcbaFA"⟩,
  ⟨["Bhks", "Bhaiksuki"],
    "edoIIBbSBNKbC",
    "edoIIBbSBNKbC"⟩,
  ⟨["Bopo", "Bopomofo"],
    "bcSBrlXbQeIbF",
    "bbJABCNAQBrbXCEJBMKDCAGAhNAJbQeIbFczlTBkWE"⟩,
  ⟨["Brah", "Brahmi"],
    "dzaEcZEbJJA",
    "dzaEcZEbJJA"⟩,
  ⟨["Brai", "Braille"],
    "pdWjV",
    "pdWjV"⟩,
  ⟨["Bugi", "Buginese"],
    "jwAbBCB",
    "jwAbBCBcckTA"⟩,
  ⟨["Buhd", "Buhid"],
    "iuYT",
    "iuNBJT"⟩,
  ⟨["Cans", "Canadian_Aboriginal"],
    "hoYyPvOcRdtpQP",
    "hoYyPvOcRdtpQP"⟩,
  ⟨["Cari", "Carian"],
    "dtyMbW",
    "hBAlzMACAfgDAdclQbW"⟩,
  ⟨["Aghb", "Caucasian_Albanian"],
    "duxSbZLA",
    "bdSAbSAbSAdtqNbZLA"⟩,
  ⟨["Cakm", "Chakma"],
    "dzkAcABR",
    "dtMJckEJdtfQcABR"⟩,
  ⟨["Cham", "Cham"],
    "cmjWcCJNCJCD",
    "cmjWcCJNCJCD"⟩,
  ⟨["Cher", "Cherokee"],
    "hlGdHCFcfjEdB",
    "bdOCBAGBWBLBgfUdHCFcfjEdB"⟩,
  ⟨["Chrs", "Chorasmian"],
    "dyxCbB",
    "dyxCbB"⟩,
  ⟨["Zyyy", "Common"],
    "
    AcMbAFbAbUBOBEXAbFArHbMFECTeMAJAGABAyNAGAOADAbGAgAAtWAeZBbvTApPDlEAcgLCcTBhVBBAbvHANAHDBFBCC
    AbdTLCdIBKDKBORbGcLbLBCCFBbABQbPCEzPWKVbjRjWyDCbFBeAtSdPpMUBABYPHEDdNBDAdMBfRPbGbLJAbWcLbFdC
    bVAdKgLjtOcLbhsIbHdYCgJJjKAgEApFAOBbezQBiAJWbIBSBDfRABbFbAFbAKKAbTBcMGBGKEjYCEbSDIdCMbZbSiUb
    AcshWDfvGjPGqTgAeLcIjLKbMCcJDQIBHbDEcIiFTMTMdIJYfFdGBcSBBCACBCDBLBABGBcMBDCHBGBbBBDBEBADGBnB
    ClFCbXhtHcPcYcIbbEbREdVMOCOBOBbKKgRcEZBBNbREIHBOFfYblVEQDMDeOEdQGLEAPLEcDIJGbNIbDCLEBcKnBMNC
    MDJFcDHOCKGIHfQBdXbsuxBAbEdR",
    "
    AcMbAFbAbUBLBBBEXAbFArHCBJBADABIBABFFECTeWAGABAyNAiHAtWAcaUApPDgdBLCbGBbEBJBBBGBKDKBORbGcLbL
    BCCFBbABQbPCEzPWKVbjRjWyDCbFBeAtSWBXCJBDBABZqCADANANAVAuJXbFAbXOMDgFJFdRbFAjtOcLbhsQZdYCblOA
    OBbfhSJWUCLBSBDfRABbFbAFbAFeXGBGKEpMMbZbScynBjPGqTgAeLcIjLKbMCcJDQIBHbDEcIiFTMTMdIbBGfFdGBcS
    BBCACBCDBLBABGBcMBDCHBGBbBBDBEBADGBnBClFCbXhtHcPcYcIbbEbREdVMOCOBOBbKKgRcEZBBNbREIXFfYblVEQD
    MDeOEdQGLEAPLEcDIJGbNIbDCLEBcKnBMNCMDJFcDHOCKGIHfQBdXbsuxBAbEdR"⟩,
  ⟨["Copt", "Coptic", "Qaac"],
    "bmGNpjKeLFG",
    "hBAwMADBBAeEBeENpjKeLFGkTAdcpCbB"⟩,
  ⟨["Xsux", "Cuneiform"],
    "efbSbjLdYeGBELhN",
    "efbSbjLdYeGBELhN"⟩,
  ⟨["Cprt", "Cypriot"],
    "dvzKFCABbRBBDACA",
    "dtiMCEbSDIcoMFCABbRBBDACA"⟩,
  ⟨["Cpmn", "Cypro_Minoan"],
    "ekyYdU",
    "dtiMBrqKdU"⟩,
  ⟨["Cyrl", "Cyrillic"],
    "bnKfCCgMivOKgEAcYAgfNbFbtoAdRbheCBdhpGcJbHA",
    "baYAcPCBABABACAFAjElRivOKgEAcYAeXAgaPbFcPAbtlKdRbheCBdhpGcJbHA"⟩,
  ⟨["Dsrt", "Deseret"],
    "dumAdB",
    "dumAdB"⟩,
  ⟨["Deva", "Devanagari"],
    "dkQdCEOCZcijGbFbreMJ",
    "baYAcjRdECbQhiEbMBBbnAAbzfRJgKbFbreMJ"⟩,
  ⟨["Diak", "Dives_Akuru"],
    "eckUGCACHBBBbDBBCLJJ",
    "eckUGCACHBBBbDBBCLJJ"⟩,
  ⟨["Dogr", "Dogra"],
    "ecaYcH",
    "doMLcidCJbqiOcH"⟩,
  ⟨["Dupl", "Duployan"],
    "gmdSeCFMDIHJCD",
    "hBAwTBBAYBqiHAfuqLeCFMDIHJCH"⟩,
  ⟨["Egyp", "Egyptian_Hieroglyphs"],
    "eldGbqRKfxQ",
    "eldGbqRKfxQ"⟩,
  ⟨["Elba", "Elbasan"],
    "duvWbN",
    "hBAwRAdtsCbN"⟩,
  ⟨["Elym", "Elymaic"],
    "dyyYW",
    "dyyYW"⟩,
  ⟨["Ethi", "Ethiopic"],
    "
    gvGcUBDCGBABDCbOBDCbGBDCGBABDCOBcEBDCcOCbFDZjvAWJGBGBGBGBGBGBGBGbvkCFCFCFJGBGepyFGBDBBBO",
    "
    beCAfrDcUBDCGBABDCbOBDCbGBDCGBABDCOBcEBDCcOCbFDZjvAWJGBGBGBGBGBGBGBGbvkCFCFCFJGBGepyFGBDBBBO"⟩,
  ⟨["Gara", "Garay"],
    "dxzCbLDbCIB",
    "chOAOADAdvqUbLDbCIB"⟩,
  ⟨["Geor", "Georgian"],
    "ghSbLBAFACbQBDejWbQCCgeAbLBAFA",
    "hBAbvLAefEbLBAFACbVejWbQCCbjMAeuNbLBAFAjZA"⟩,
  ⟨["Glag", "Glagolitic"],
    "qrGdRgizGGBQCGBBBE",
    "hBAwPABAoSACAjXAeiRAfvIAekRdRsPAbtnFAeotKGBQCGBBBE"⟩,
  ⟨["Goth", "Gothic"],
    "dueAbA",
    "hBAwQBCAbOAdsyObA"⟩,
  ⟨["Gran", "Grantha"],
    "eadSDBHCBCVBGBBBECICBCCCAGAFGCGDE",
    "dnTBRByQNgkAABBbECDBbnAAdnrJDBHCBCVBGBBBEBJCBCCCAGAFGCGDEerRBBA"⟩,
  ⟨["Grek", "Greek"],
    "
    bhWDBCCDBAEABABCBABTBcKOPjnQEbYEEEdGAmIVCFCbLCFCHBABABABbECcABOBNCFBSCCBIlJAcajEAbgnIdARAdax
    RcR",
    "
    hBAwMBCABABAKAbUACAbQHCDBAEABABCBABTBcKOPjnQEbYEEEdGCmGVCFCbLCFCHBABABABbECcABOBNCFBSCCBIdQA
    hSAcajEAbgnIdARAdaxRcR"⟩,
  ⟨["Gujr", "Gujarati"],
    "dzLCBIBCBVBGBBBECJBCBCCAPDCLHG",
    "dnTBRBkXCBIBCBVBGBBBECJBCBCCAPDCLHGchnSJ"⟩,
  ⟨["Gong", "Gunjala_Gondi"],
    "eebWFBBBbKBBBFHJ",
    "hBAdhKBeanIFBBBbKBBBFHJ"⟩,
  ⟨["Guru", "Gurmukhi"],
    "duNCBFEBCVBGBBBBBBCABEEBCCDAHDBAHQ",
    "dnTBRBfZCBFEBCVBGBBBBBBCABEEBCCDAHDBAHQchsZJ"⟩,
  ⟨["Gukh", "Gurung_Khema"],
    "fdrScF",
    "doNAfadEcF"⟩,
  ⟨["Hani", "Han"],
    "
    rpWZBdKMiFbVABAZIODblCjtNcMbfbJbhsIoBCeBbsiIBMBccoKclfBbGgdTGiNCinPOlbKPxXdqWuVcfYhhYFgfF",
    "
    hBAriUZBdKMiFbAPBCBMBMBMCAGIhFAfSPbGbLJAbWbNcEbWPLbZAdKYKEdSbEBjtNcMbfbJcqYHbfbCoBCeBbhRBkWE
    bqpOBMBblrARlrYBfeSclfBbGgdTGiNCinPOlbKPxXdqWuVcfYhhYFgfF"⟩,
  ⟨["Hang", "Hangul"],
    "glKjVllEBjXdPeJbEcNbEbtaNbCyTqnRMWEbWpaIbEDFCFCFCC",
    "glKjVljLCEJBMOCGAhNAcBdPeJbEcNbEbtaNbCyTqnRMWEbWomZBkWEcGbEDFCFCFCC"⟩,
  ⟨["Rohg", "Hanifi_Rohingya"],
    "dxwQbNIJ",
    "chOAOADAbGAfRAdvhJbNIJ"⟩,
  ⟨["Hano", "Hanunoo"],
    "itSU",
    "itSW"⟩,
  ⟨["Hatr", "Hatran"],
    "dwiASBBFE",
    "dwiASBBFE"⟩,
  ⟨["Hebr", "Hebrew"],
    "ccVcCIbAEFdovWZBEBABBBBBJ",
    "bdVByYcCIbAEFdovWZBEBABBBBBJ"⟩,
  ⟨["Hira", "Hiragana"],
    "shDdHGCfpeVlASAbDCymVA",
    "seRCEJBMQFBAEBDdHCHdMBcztGBkWEKAbTBcouRlASAbDCymVA"⟩,
  ⟨["Armi", "Imperial_Aramaic"],
    "dwbWVBI",
    "dwbWVBI"⟩,
  ⟨["Zinh", "Inherited", "Qaai"],
    "
    bdOeHkRBrKKbAAbcIDgoXbEtTCBMBGEAGADBhQcLuEBhMbGftXDeDBczuJPQNblNAiSAgfAActcUbTCWuYCRHCGbEDbt
    lhIjF",
    "
    beDACABODGCACPBBBRBEBDcgMBgoXbEbdBcBBABEuEBhMbFdfsQPQNblNAczqObTCWuYCRHCGbEDbtlhIjF"⟩,
  ⟨["Phli", "Inscriptional_Pahlavi"],
    "dxgQSFH",
    "dxgQSFH"⟩,
  ⟨["Prti", "Inscriptional_Parthian"],
    "dxfKVCH",
    "dxfKVCH"⟩,
  ⟨["Java", "Javanese"],
    "cmeYcZCJEB",
    "cmeYcZBKEB"⟩,
  ⟨["Kthi", "Kaithi"],
    "dzfCcOKA",
    "doOJnxXAbufEJbnmScOKA"⟩,
  ⟨["Knda", "Kannada"],
    "etCMBCBWBJBECIBCBDHBGBBDCJBC",
    "dnTBRBbeOMBCBWBJBECIBCBDHBGBBDCJBCgaEABBGAXABAcasXF"⟩,
  ⟨["Kana", "Katakana"],
    "skVdLCCjGPiAbUBdJczhEJBbScouCDBGBBBAlBCbYAOD",
    "bdTAbDAqzTCEJBMQFBAEBdNDDdRjGPiAbUBdJcywBBkWcKcouADBGBBBAlBCbYAOD"⟩,
  ⟨["Kawi", "Kawi"],
    "eerWQBbODbC",
    "eerWQBbODbC"⟩,
  ⟨["Kali", "Kayah_Li"],
    "cmaAbTBA",
    "cmaAbV"⟩,
  ⟨["Khar", "Kharoshthi"],
    "dwtCDBBFHBCBbCCCEJHI",
    "dwtCDBBFHBCBbCCCEJHI"⟩,
  ⟨["Kits", "Khitan_Small_Script"],
    "fjiIAkgXsBbPA",
    "fjiIAkgXsBbPA"⟩,
  ⟨["Khmr", "Khmer"],
    "ixKdPCJGJsSbF",
    "ixKdPCJGJsSbF"⟩,
  ⟨["Khoj", "Khojki"],
    "dztWRBbU",
    "edIJchoIJbobMRBbU"⟩,
  ⟨["Sind", "Khudawadi"],
    "eaaQcGFJ",
    "doMBcidMJboiGcGFJ"⟩,
  ⟨["Krai", "Kirat_Rai"],
    "fiiIcF",
    "fiiIcF"⟩,
  ⟨["Laoo", "Lao"],
    "fmVBBABEBXBABWCEBABGBJCD",
    "fmVBBABEBXBABWCEBABGBJCD"⟩,
  ⟨["Latn", "Latin"],
    "
    cNZGZbVAPAFWBbEBrGbNEjxBbLGbWFDFMBcRcNjVoFANAQMfLBGAbBARbOecTbFbulMdXDcOCBBABHVNbfKbQBIBDbed
    QGboKZGZdcFFBbPBIddnPbEGF",
    "
    cNZGZbVAMACAFWBbEBrGDAKABCBAJABAGEbBOBBBAPCHBBBbMAFAEMkRBbvEBcxKAeoIbLGbWFDFMBcRcFAHjVlRAcNA
    NAQMdFAcFBGAbBARbOecTbFpRAbtuMHbAdXDcOCBBABHVNlQAtTbQBIBDbedQGboKZGZdcFFBbPBIddnPbEGF"⟩,
  ⟨["Lepc", "Lepcha"],
    "kpScDDODC",
    "kpScDDODC"⟩,
  ⟨["Limb", "Limbu"],
    "jmEbEBLELEADL",
    "doNAfxQbEBLELEADL"⟩,
  ⟨["Lina", "Linear_A"],
    "dvfSlYJVKH",
    "dtiTbSbvGlYJVKH"⟩,
  ⟨["Linb", "Linear_B"],
    "dsyQLBZBSBBBOCNbIeS",
    "dsyQLBZBSBBBOCNbIeSFCEbSDI"⟩,
  ⟨["Lisu", "Lisu"],
    "ckkUbVbumAA",
    "baYAQArdKBbsfSbVbumAA"⟩,
  ⟨["Lyci", "Lycian"],
    "dtxGbC",
    "mgOAdhqRbC"⟩,
  ⟨["Lydi", "Lydian"],
    "dwkMZFA",
    "hBArfTAdexQZFA"⟩,
  ⟨["Mahj", "Mahajani"],
    "dznCbM",
    "hBAdhKLcidCJbnuSbM"⟩,
  ⟨["Maka", "Makasar"],
    "eeqQY",
    "eeqQY"⟩,
  ⟨["Mlym", "Malayalam"],
    "eyAMBCBbYBCBFEPCZ",
    "dnTBRBbjMMBCBbYBCBFEPCZfvEAXAcasZC"⟩,
  ⟨["Mand", "Mandaic"],
    "ddGbBCA",
    "cjOAtRbBCA"⟩,
  ⟨["Mani", "Manichaean"],
    "dxaMbMEL",
    "cjOAduqXbMEL"⟩,
  ⟨["Marc", "Marchen"],
    "edsQbFCVBN",
    "edsQbFCVBN"⟩,
  ⟨["Gonm", "Masaram_Gondi"],
    "edyEGBBBbRDABBBIIJ",
    "doMBeajQGBBBbRDABBBIIJ"⟩,
  ⟨["Medf", "Medefaidrin"],
    "fisEdM",
    "fisEdM"⟩,
  ⟨["Mtei", "Meetei_Mayek"],
    "cmsMWhTbTCJ",
    "cmsMWhTbTCJ"⟩,
  ⟨["Mend", "Mende_Kikakui"],
    "hcuYhOCP",
    "hcuYhOCP"⟩,
  ⟨["Merc", "Meroitic_Cursive"],
    "dwpKXETCbT",
    "dwpKXETCbT"⟩,
  ⟨["Mero", "Meroitic_Hieroglyphs"],
    "dwoEbF",
    "mgRAdkhMbF"⟩,
  ⟨["Plrd", "Miao"],
    "fizOcWEcEHQ",
    "fizOcWEcEHQ"⟩,
  ⟨["Modi", "Modi"],
    "ebhGcQLJ",
    "clsAJbpoWcQLJ"⟩,
  ⟨["Mong", "Mongolian"],
    "jcIBCABTGdKHbQdscBM",
    "jcIZGdKHbQcwAAfzTBFDdjfWM"⟩,
  ⟨["Mroo", "Mro"],
    "fheUbEBJEB",
    "fheUbEBJEB"⟩,
  ⟨["Mult", "Multani"],
    "dzyUGBABDBOBK",
    "dyKJdwaAGBABDBOBK"⟩,
  ⟨["Mymr", "Myanmar"],
    "gbOgDcgaYbEdTbFbpaMT",
    "gbOgDcfuCAgVbEdTbFbpaMT"⟩,
  ⟨["Nbat", "Nabataean"],
    "dweIbEII",
    "dweIbEII"⟩,
  ⟨["Nagm", "Nag_Mundari"],
    "hbpObP",
    "hbpObP"⟩,
  ⟨["Nand", "Nandinagari"],
    "ecqYHCbTCK",
    "dnTASBbiMJgbHAIAHAcasRFbqySHCbTCK"⟩,
  ⟨["Talu", "New_Tai_Lue"],
    "jrCbREZGKDB",
    "jrCbREZGKDB"⟩,
  ⟨["Newa", "Newa"],
    "eanOdNBE",
    "dnTBhkCABBJAGABABAdpoSdNBE"⟩,
  ⟨["Nkoo", "Nko"],
    "cyIcGCC",
    "chOAOADAqAcGCCdowSB"⟩,
  ⟨["Nshu", "Nushu"],
    "fjiFAyvMpF",
    "fjiFAyvMpF"⟩,
  ⟨["Hmnp", "Nyiakeng_Puachue_Hmong"],
    "haeAbSDNCJEB",
    "haeAbSDNCJEB"⟩,
  ⟨["Ogam", "Ogham"],
    "inObC",
    "inObC"⟩,
  ⟨["Olck", "Ol_Chiki"],
    "ksUbV",
    "ksUbV"⟩,
  ⟨["Onao", "Ol_Onal"],
    "hbzKbQEA",
    "doMBgykWbQEA"⟩,
  ⟨["Hung", "Old_Hungarian"],
    "dxrSbYNbYHF",
    "mgOACAfgDAPAdgeGbYNbYHF"⟩,
  ⟨["Ital", "Old_Italic"],
    "ducEbJJC",
    "ducEbJJC"⟩,
  ⟨["Narb", "Old_North_Arabian"],
    "dwyAbF",
    "dwyAbF"⟩,
  ⟨["Perm", "Old_Permic"],
    "dufGbQ",
    "hBAwMAFCKAoDAdsmUbQ"⟩,
  ⟨["Xpeo", "Old_Persian"],
    "duiIbJEN",
    "duiIbJEN"⟩,
  ⟨["Sogo", "Old_Sogdian"],
    "dyqIbN",
    "dyqIbN"⟩,
  ⟨["Sarb", "Old_South_Arabian"],
    "dwwUbF",
    "dwwUbF"⟩,
  ⟨["Orkh", "Old_Turkic"],
    "dxmUcU",
    "mgOAfgFAdfzZcU"⟩,
  ⟨["Ougr", "Old_Uyghur"],
    "dyuQZ",
    "cjOAdusVAbsFZ"⟩,
  ⟨["Orya", "Oriya"],
    "eeJCBHCBCVBGBBBECICBCCHCEBBECR",
    "dnTBRBpVCBHCBCVBGBBBECICBCCHCEBBECRgpEAXA"⟩,
  ⟨["Osge", "Osage"],
    "dusUbJEbJ",
    "bdPACAGAcYAdtlVbJEbJ"⟩,
  ⟨["Osma", "Osmanya"],
    "duqYbDCJ",
    "duqYbDCJ"⟩,
  ⟨["Hmng", "Pahawh_Hmong"],
    "fhmEcRKJBGBUFS",
    "fhmEcRKJBGBUFS"⟩,
  ⟨["Palm", "Palmyrene"],
    "dwdCbF",
    "dwdCbF"⟩,
  ⟨["Pauc", "Pau_Cin_Hau"],
    "edcAcE",
    "edcAcE"⟩,
  ⟨["Phag", "Phags_Pa"],
    "clsQcD",
    "jcKBBAdcJAfzUAbtnXcD"⟩,
  ⟨["Phnx", "Phoenician"],
    "dwjGbBDA",
    "dwjGbBDA"⟩,
  ⟨["Phlp", "Psalter_Pahlavi"],
    "dxhWRHDMG",
    "cjOAduyHRHDMG"⟩,
  ⟨["Rjng", "Rejang"],
    "cmbWbJLA",
    "cmbWbJLA"⟩,
  ⟨["Runr", "Runic"],
    "ioUcWDK",
    "ioUdK"⟩,
  ⟨["Samr", "Samaritan"],
    "daUbTCO",
    "daUbTCOojQA"⟩,
  ⟨["Saur", "Saurashtra"],
    "clvCcRIL",
    "clvCcRIL"⟩,
  ⟨["Shrd", "Sharada"],
    "dzoYdR",
    "dnTAhkFABACBCAJACAcatEFCAbnwPdR"⟩,
  ⟨["Shaw", "Shavian"],
    "dupCbV",
    "hBAduiAbV"⟩,
  ⟨["Sidd", "Siddham"],
    "ebcIcBCbL",
    "ebcIcBCbL"⟩,
  ⟨["Sgnw", "SignWriting"],
    "gwtKzBPEBO",
    "gwtKzBPEBO"⟩,
  ⟨["Sinh", "Sinhala"],
    "fcZCBRDXBIBACGDAEFBABHGJCCdulGT",
    "doMBboLCBRDXBIBACGDAEFBABHGJCCfrPAdotQT"⟩,
  ⟨["Sogd", "Sogdian"],
    "dysEbP",
    "cjOAdwiPbP"⟩,
  ⟨["Sora", "Sora_Sompeng"],
    "dziEYHJ",
    "dziEYHJ"⟩,
  ⟨["Soyo", "Soyombo"],
    "ecxSdE",
    "ecxSdE"⟩,
  ⟨["Sund", "Sundanese"],
    "kkUcLjWH",
    "kkUcLjWH"⟩,
  ⟨["Sunu", "Sunuwar"],
    "edlWbHOJ",
    "bdOBBAJACAbCADAecgKbHOJ"⟩,
  ⟨["Sylo", "Syloti_Nagri"],
    "clqEbS",
    "doMBeYJchwIbS"⟩,
  ⟨["Syrc", "Syriac"],
    "cqYNBcHCCkMK",
    "bdRBCBBAYCHBBBbcCAOBCAbGAKKbAAfNNBcHCCkMKieFABA"⟩,
  ⟨["Tglg", "Tagalog"],
    "isMVJA",
    "isMVJAVB"⟩,
  ⟨["Tagb", "Tagbanwa"],
    "iwEMBCBB",
    "iuNBbPMBCBB"⟩,
  ⟨["Tale", "Tai_Le"],
    "jpGbDCE",
    "bdOBFBDAezZJdkWbDCE"⟩,
  ⟨["Lana", "Tai_Tham"],
    "jxGcKBbCCKGJGN",
    "jxGcKBbCCKGJGN"⟩,
  ⟨["Tavt", "Tai_Viet"],
    "cmoUcOYE",
    "cmoUcOYE"⟩,
  ⟨["Takr", "Takri"],
    "ebmEcFGJ",
    "doMBcidMJbptUcFGJ"⟩,
  ⟨["Taml", "Tamil"],
    "ejIBBFDCBDDBBABBDBDCDLEEDCBDCAGAOUealHbXNA",
    "dnTBRBuUBBFDCBDDBBABBDBDCDLEEDCBDCAGAOUgkDAcbbKAboeFABAcDBetFbXNA"⟩,
  ⟨["Tnsa", "Tangsa"],
    "fhgQdABJ",
    "fhgQdABJ"⟩,
  ⟨["Tang", "Tangut"],
    "fjiEAbFjbZIbdNtSI",
    "seAPtBAeqkMAbFjbZIbdNtSI"⟩,
  ⟨["Telu", "Telugu"],
    "eoEMBCBWBPCIBCBDHBBCCACDCJHI",
    "dnTBRBzQMBCBWBPCIBCBDHBBCCACDCJHIgeVBBABAXA"⟩,
  ⟨["Thaa", "Thaana"],
    "cvWbX",
    "chOAOBCAcMJkSbXdpgQAKA"⟩,
  ⟨["Thai", "Thai"],
    "fhXcFFbB",
    "baYAbAAbRAbTAecLcFFbB"⟩,
  ⟨["Tibt", "Tibetan"],
    "frScTBbJEbMBbJBOBGEB",
    "frScTBbJEbMBbJBOBGEBmeVD"⟩,
  ⟨["Tfng", "Tifinagh"],
    "rcYcDHBOA",
    "bdQABABDZApyAcDHBOA"⟩,
  ⟨["Tirh", "Tirhuta"],
    "easMcTIJ",
    "dnTBRBhjJAMAPAcasZJbpaCcTIJ"⟩,
  ⟨["Todr", "Todhri"],
    "dvdGbZ",
    "bdPACACAJABAcWAdtwBbZ"⟩,
  ⟨["Toto", "Toto"],
    "hatKbE",
    "baYAgzsLbE"⟩,
  ⟨["Tutg", "Tulu_Tigalari"],
    "eaiQJBACABbLBJBACABDBJBBIB",
    "exAJgbQABAcasXFhFAbojEJBACABbLBJBACABDBJBBIB"⟩,
  ⟨["Ugar", "Ugaritic"],
    "duhCbDBA",
    "duhCbDBA"⟩,
  ⟨["Vaii", "Vai"],
    "ckmQlN",
    "ckmQlN"⟩,
  ⟨["Vith", "Vithkuqi"],
    "dvaEKBOBGBBBKBOBGBB",
    "dvaEKBOBGBBBKBOBGBB"⟩,
  ⟨["Wcho", "Wancho"],
    "havGcFFA",
    "havGcFFA"⟩,
  ⟨["Wara", "Warang_Citi"],
    "echCdEMA",
    "echCdEMA"⟩,
  ⟨["Yezi", "Yezidi"],
    "dylKbPBCCB",
    "chOAOADAcMJdwaGbPBCCB"⟩,
  ⟨["Yiii", "Yi"],
    "cipKbsUDcC",
    "seRBFJCHiPAbqbCbsUDcCbiiCE"⟩,
  ⟨["Zanb", "Zanabazar_Square"],
    "ecuQcT",
    "ecuQcT"⟩]

end Script

end NamedCapture
