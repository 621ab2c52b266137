/-
NamedCapture/Unicode/Segmentation.lean

The classes by which text is cut into grapheme clusters, words and sentences.
Characters outside every table of a kind have the class `Other`, which has no
table.
-/
import NamedCapture.Unicode.CharSet

namespace NamedCapture.Segmentation

/-- Names and members of the grapheme cluster classes. -/
def graphemeTables : List (List String × String) := [
  (["CR"], "NA"),
  (["Control", "CN"], "AJBBBRdRbGNAcbMAguRAdaQACBYGbXPdghJAjGLtuAPbzqUDhwXHbtkzLbFdSeXjGfiL"),
  (["Extend", "EX"], "
    bdOeHkPGkDbSBABBBBBAcUKbWUQAdXGCFCBBDbJAbEbAdNKcGIJAYDBIBCBEbRCcHIbQXBbFcDABAEHEADGKBbDAcGAB
    ACDIAJAKBbAACBcFAEBEBCCDAbEBDALBcFAEEBBEAUBWFBAcGABBBDIAHCKBbEAcHABAMAJAbOADAcDABCFCBDHBLBbD
    AcGACACADAFBHBLBbCBcFBBACDIAJAKBbDAcUAEACCBAIAdDACGMHdUACILGcVBbBABABAcDNBEBBFKBbJJAdYDBFBBC
    BZBECQDNACBGAPAbbBCbkKCbDBbEBbEBcMBBGIACKJAbTCBAeNBbIAeOCEBJAGCiLBCAcGABGBABACHGJCAbWbEbXDbW
    GBAFAbOIMBbGDCBBCcEABBDABCcGHCBfWCBMBGEAGADBhQcLuEAhNbGeoCCfLAdSbFvIFeBBbsqEDBJbGBdCBkMADAEA
    ZBFAfVBbARNAbMHZKbUCbWACDCBbNAcPFCBCBMAIAbVAbZABCCBFBBAbQBIAjEACAEAbdzSAbcJPQPoCBxHAiSAfTEcm
    GCBBFDbOCEAgJBwBDcNEmFBdBDcSKbXDeTAcCObPACBKCbXDCBHAcJCbKEBHcKAMBcAIKDCAdRCCABBGACAgBADHVBcF
    BBABAWAOGDEcPACFBACABCECBAOBdHHCCBAXAdDACFBACABBBBjBACDGBBBbBBdHHCABBeCABACFBAdXCCDBEjZIBBjL
    AKBBAEAfODCBEAbGJbOFCDIAJFCCbUMBBpQGBFBAdEVCGBBBBeSFDABBBGBAcUBDABAnJBLBcAEFABAXAhxTAGOqyYLD
    CdsAEcHGboIAcLDdDAbdbKBgyZbTCWuWABCEEIHCGbEDfSCcyDcCEbXIAOAWEBOcaIGBQCGBBBEdWAgEGoLAcJDtODjU
    BbcIGeFGebGEbsxyUdReYjF"),
  (["L"], "glKdRcfoQbC"),
  (["LF"], "KA"),
  (["LV"], "
    cndOAbBAbBAbBAbBAbBAbBAbBAbBAbBAbBAbBAbBAbBAbBAbBAbBAbBAbBAbBAbBAbBAbBAbBAbBAbBAbBAbBAbBAbBA
    bBAbBAbBAbBAbBAbBAbBAbBAbBAbBAbBAbBAbBAbBAbBAbBAbBAbBAbBAbBAbBAbBAbBAbBAbBAbBAbBAbBAbBAbBAbB
    AbBAbBAbBAbBAbBAbBAbBAbBAbBAbBAbBAbBAbBAbBAbBAbBAbBAbBAbBAbBAbBAbBAbBAbBAbBAbBAbBAbBAbBAbBAb
    BAbBAbBAbBAbBAbBAbBAbBAbBAbBAbBAbBAbBAbBAbBAbBAbBAbBAbBAbBAbBAbBAbBAbBAbBAbBAbBAbBAbBAbBAbBA
    bBAbBAbBAbBAbBAbBAbBAbBAbBAbBAbBAbBAbBAbBAbBAbBAbBAbBAbBAbBAbBAbBAbBAbBAbBAbBAbBAbBAbBAbBAbB
    AbBAbBAbBAbBAbBAbBAbBAbBAbBAbBAbBAbBAbBAbBAbBAbBAbBAbBAbBAbBAbBAbBAbBAbBAbBAbBAbBAbBAbBAbBAb
    BAbBAbBAbBAbBAbBAbBAbBAbBAbBAbBAbBAbBAbBAbBAbBAbBAbBAbBAbBAbBAbBAbBAbBAbBAbBAbBAbBAbBAbBAbBA
    bBAbBAbBAbBAbBAbBAbBAbBAbBAbBAbBAbBAbBAbBAbBAbBAbBAbBAbBAbBAbBAbBAbBAbBAbBAbBAbBAbBAbBAbBAbB
    AbBAbBAbBAbBAbBAbBAbBAbBAbBAbBAbBAbBAbBAbBAbBAbBAbBAbBAbBAbBAbBAbBAbBAbBAbBAbBAbBAbBAbBAbBAb
    BAbBAbBAbBAbBAbBAbBAbBAbBAbBAbBAbBAbBAbBAbBAbBAbBAbBAbBAbBAbBAbBAbBAbBAbBAbBAbBAbBAbBAbBAbBA
    bBAbBAbBAbBAbBAbBAbBAbBAbBAbBAbBAbBAbBAbBAbBAbBAbBAbBAbBAbBAbBAbBAbBAbBAbBAbBAbBAbBAbBAbBAbB
    AbBAbBAbBAbBAbBAbBAbBAbBAbBAbBAbBAbBAbBAbBAbBAbBAbBAbBAbBAbBAbBAbBAbBAbBAbBAbBAbBAbBAbBAbBAb
    BAbBAbBAbBAbBAbBAbBAbBAbBAbBAbBAbBAbBAbBAbBAbBAbBAbBAbBAbBAbBAbBAbBAbBAbBAbBAbBAbBAbBAbBAbBA
    bBA"),
  (["LVT"], "
    cndPbABbABbABbABbABbABbABbABbABbABbABbABbABbABbABbABbABbABbABbABbABbABbABbABbABbABbABbABbABb
    ABbABbABbABbABbABbABbABbABbABbABbABbABbABbABbABbABbABbABbABbABbABbABbABbABbABbABbABbABbABbAB
    bABbABbABbABbABbABbABbABbABbABbABbABbABbABbABbABbABbABbABbABbABbABbABbABbABbABbABbABbABbABbA
    BbABbABbABbABbABbABbABbABbABbABbABbABbABbABbABbABbABbABbABbABbABbABbABbABbABbABbABbABbABbABb
    ABbABbABbABbABbABbABbABbABbABbABbABbABbABbABbABbABbABbABbABbABbABbABbABbABbABbABbABbABbABbAB
    bABbABbABbABbABbABbABbABbABbABbABbABbABbABbABbABbABbABbABbABbABbABbABbABbABbABbABbABbABbABbA
    BbABbABbABbABbABbABbABbABbABbABbABbABbABbABbABbABbABbABbABbABbABbABbABbABbABbABbABbABbABbABb
    ABbABbABbABbABbABbABbABbABbABbABbABbABbABbABbABbABbABbABbABbABbABbABbABbABbABbABbABbABbABbAB
    bABbABbABbABbABbABbABbABbABbABbABbABbABbABbABbABbABbABbABbABbABbABbABbABbABbABbABbABbABbABbA
    BbABbABbABbABbABbABbABbABbABbABbABbABbABbABbABbABbABbABbABbABbABbABbABbABbABbABbABbABbABbABb
    ABbABbABbABbABbABbABbABbABbABbABbABbABbABbABbABbABbABbABbABbABbABbABbABbABbABbABbABbABbABbAB
    bABbABbABbABbABbABbABbABbABbABbABbABbABbABbABbABbABbABbABbABbABbABbABbABbABbABbABbABbABbABbA
    BbABbABbABbABbABbABbABbABbABbABbABbABbABbABbABbABbABbABbABbABbABbABbABbABbABbABbABbABbABbABb
    ABbA"),
  (["Prepend", "PP"], "chCFiHAbXAoUBdCAbrNAdugKAPAjKBcvRABAjOAcVFbaYArBA"),
  (["Regional_Indicator", "RI"], "hgoKZ"),
  (["SpacingMark", "SM"], "
    dkTAcDACCIDBBbYBcHBGBCBcCAcGCcOAcGCIABBcBBcIAGBCBeKABBDCBCcACcJDcJBcGABBBBCBBBbNAOBcHBFCBCcB
    BcYBGGTBcLAeXAfIBcLAgVAJBZBbSAcmQAbEAeZAHHBBnIDCCEBBFiQBcGABAVFfPAcCABEBBcJAbEAEBCAcIACCBADB
    bWHIBgPAVAcasHBCAdKBbYPfMBbVAbWBEBCCeGBCBYAgBACBFAjDBBBBBBAblxJABAeXAbTCEBeLAYBcHAbWCJBNAdPC
    DBBAgOCbFBcHABDCBCCUBdHBPABBdZCIBDAeDBGABBBACAjEBGDCAeJCIBBAeFABBGAeHAkBCJAjOEBBEACABAfMCIDE
    AdGAbDBcKApRAOAeCAHACAiFEEBBAnMBMAbWBIBBAyyYCfjGcCeABbkxOAGA"),
  (["T"], "grWdJcwxNbW"),
  (["V"], "gpCcTcwzWW"),
  (["ZWJ"], "mdPA")]

/-- Names and members of the word classes. -/
def wordTables : List (List String × String) := [
  (["ALetter", "LE"], "
    cNZGZbVAKAEAFWBbEBsLGbHeIEBBCDBAGABCBABTBdEBfIIgJBbLCDBABbOBAeAAbSbQbJBBdUBAPBHBKCCAQABbDbDd
    KLAYbGJBEAFVEAJADAXYHKFXBFRbPcGcBDASAHJPPEHCBCVBGBADDDAQANBBCOBKAIFEBCVBGBBBBBBbFDBATCQIBCBV
    BGBBBEDASAPBXALHCBCVBGBBBEDAbEBBCPARABFDCBDDBBABBDBDCDLWAcAHBCBWBPDAbACCACBbEAEHBCBWBJBEDAbF
    BBBPBRIBCBbOCAQAFCICYFFRDXBIBACGmBAcLHBbJbBEkPbLBAFACbQBmUBDCGBABDCbOBDCbGBDCGBABDCOBcEBDCcO
    bLPQdHCFDxVCQBZFcWDKHRNSOROMBCgTdKHECbHBAFcRKbEiRWjEbURHcCbDNBKbRbAbJbPCKbJCKFbQCCbPDBFBBDAF
    hJcMkRCFCbLCFCHBABABABbECcABGBADCBGDDCFEMFCBGeMANAQMdXAEACJBADEGABABABDBKCDFEEARbObfHbZcrUiU
    GDDBMbLBAFACcDHAQWJGBGBGBGBGBGBGBGdCAsBAcBBhSbQBdPRbFbptObsUcPbTCkIDPKBUbUQbECdBYhPCBBABHVPB
    CBDBWbDbZObXcKFDABBLbBKWZbCHbUbCAbWbOXCBHfSKHCMFCFCFJGBGBcFGeKbDqnRMWEbWngUGMEcEdTbHnYScLCcB
    bOLeMEBfEbKZGZcRbEDFCFCFCCbJLBZBSBBBOCNbIeScRcAkHbCDbWbVbFNbDFbLKbDCbJEHBEbQgBSbJEbJEbNIbZMK
    BOBGBBBKBOBGBBDbZMlYJVKHYFBbPBIcRFCABbRBBDACWKWJbEcNSBBKVKZcScDGBcMAPDBCBbCbQbCDbCbJHBbBbBcB
    KVKSNReGcUcDbYNbYNbJbMbBJWjQbPGBQCcHbCKAIVbQRbUUbBWMcAcFBCANbSbGYbAbJbDACAIbIDAMbVODVABAbJRB
    YTBcLGBABDBOBJHbUbMHCBCVBGBBBEDASAMEbEJBACABbLBAZABAbScASDUCbEbVUBBAhCbUbPDbKbVUAcHbQNAmPbRe
    McLbFHCACHBBBXPABAdQHCbMQABAbCAKbNHAVALbTTAScUhRbGbFIBbKRAbXbDeIGBBBbLVAZFBBBbFOAmPSPABMBbHe
    UAdBbjLdYeGRhNdxKdSPbpFRFZfxQFwKkdDbDcpUvWHbERdARbDSbVQDbFUFSqQbSiDcLeYcWFAcOMcMBBAbcvKeCFMD
    IHJiwKdGBcSBBCACBCDBLBABGBcMBDCHBGBbBBDBEBADGBnBCYBYBbEBYBbEBYBbEBYBbEBYBHcsYbEGFkBcJfQbSKGQ
    AmJbDSbRsQbBiUbDCAtBGBDBBBOBhOcHcPHAbuIDBbABBBACABJBDBABAGAEABABABCBBBACABABABABABBBACDBGBDB
    DBABJBQFCBEBQyEZGZGZ"),
  (["CR"], "NA"),
  (["Double_Quote", "DQ"], "bIA"),
  (["Extend"], "
    bdOeHkPGkDbSBABBBBBAcUKbWUQAdXGCFCBBDbJAbEbAdNKcGIJAYDBIBCBEbRCcHIbQXBbGcCCBRBGKBbDCcEABGCBC
    CJAKBbAACCcEABEEBCCDAbEBDALCcEABHBCBCUBWFBCcEABGCBCCHCKBbEAcHEDCBDJAbOEcDABGBCBDHBLBbDCcEABG
    BCBDHBLBPAMDcDBBGBCBDJAKBbDCcSAEFBABHSBcJACGMHdUACILGcVBbBABABAEBbXTBBFKBbJJAdWTXDECBCCGDDNL
    BAKDbbBCbkKDbCCbDBbEBcMbFJAbTCBAeNBbIAeOLELiLEcFJBbCCAbWbEbXEbVQbMIMCbEMcENbWTfWCBUEAGACChQc
    LuEAhNbGeoCCfLAdSbFvIFeBBbsqEDBJbGBdCBkMADAEAXEEAdFBbYRbARNAbMHZMbSDbVNbKAcPNMAIBbTCbYABCCBF
    BBAbPEFBjCHBBbdzSAbcJPQPoCBxHAiSAfTEcmGCBBFDbOCEAgJBwBDcNEmFBdBDcSKbXDeSCcBObPACBKDbTKHAcJCb
    KNQBbSAMCbWNIDBBdOLGACAgBLVDcDBBGCBCCJAKBCGDEcPIBACABDBEBAOBdERXAdDTjBGCIbBBdEQeCMdXOjWOjLFB
    BCDBABBfLGCGDAbCJbOGBDIAJKbUPpPHBHdEVBNeSFDABBBGBAcOEBBBEnJDJBBAbWGDEXAhxTAGOqyYRdsAEcHGboIA
    BcCHDdDALBbdaXBgyZbTCWuWEDFIHCGbEDfSCcyDcCEbXIAOAWEBOcaIGBQCGBBBEdWAgEGoLAcJDtODjUBbcIGeFGeb
    GEbsxyUdReYjF"),
  (["ExtendNumLet", "EX"], "dRAmbFAPBTAdgaOBYCjFA"),
  (["Format", "FO"], "
    gRAcaKFWAhKAbXAoUBdCAftJAdaTBbAEbXEBJdghJAjPCgiZAPAnkKPbzqUDhwXHbtkzMA"),
  (["Hebrew_Letter", "HL"], "cfGbAEDdovYABJBMBEBABBBBBJ"),
  (["Katakana", "KA"], "sgNEdXBDdMBDjGPiAbUBdJczhEcDcouCDBGBBBAlBCbYAOD"),
  (["LF"], "KA"),
  (["MidLetter", "ML"], "cGAeUAbbRAsDAfSAjxYAdgbBAcNAhOA"),
  (["MidNum", "MN"], "bSAOAbgCAuCAfABdQApFAjfFAdfzVADAcHADAhBAOA"),
  (["MidNumLet", "MB"], "bUAmcFBKAdgdPAgYAGA"),
  (["Newline", "NL"], "LBeQAlzMB"),
  (["Numeric", "NU"], "
    bWJciOJBAfCJhQJpWJeOJeOJeOJeOJeOJeOJeOJeOJeOJdSJeOJcSJkSJcSJctQJbMJlOJeYJgKJGJhAJdIJfEJGJcae
    OJbaCJbMJhQJWJdIJpQJbfmCJccKJdfYJGJbeQJeYJcIJfOJkSJnEJeOJoKJdYJGTcYJqGJdYJzMJdIJjMJcSJqGJyyG
    JdmCJdIJfEJuOJbkdYJecQbXdnCJqGJtIJjNJbgVJhbAJ"),
  (["Regional_Indicator", "RI"], "hgoKZ"),
  (["Single_Quote", "SQ"], "bNA"),
  (["WSegSpace"], "bGAimHAdpNGBCdGAfxWA"),
  (["ZWJ"], "mdPA")]

/-- Names and members of the sentence classes. -/
def sentenceTables : List (List String × String) := [
  (["ATerm", "AT"], "bUAmcRAdgdPAhFA"),
  (["CR"], "NA"),
  (["Close", "CL"], "
    bIAECbXABAbDABAbTAPAfmSDcuNBdpJHZBKBcCBOByJDbDBbpGFHNdBBbFJpNVcLDbGBbnMNOBCJYASHqLJCHBCczrQB
    iHBbCPCBQFgNBbXABAbDABABBBBdpoSC"),
  (["Extend", "EX"], "
    bdOeHkPGkDbSBABBBBBAcUKbWUQAdXGCFCBBDbJAbEbAdNKcGIJAYDBIBCBEbRCcHIbQXBbGcCCBRBGKBbDCcEABGCBC
    CJAKBbAACCcEABEEBCCDAbEBDALCcEABHBCBCUBWFBCcEABGCBCCHCKBbEAcHEDCBDJAbOEcDABGBCBDHBLBbDCcEABG
    BCBDHBLBPAMDcDBBGBCBDJAKBbDCcSAEFBABHSBcJACGMHdUACILGcVBbBABABAEBbXTBBFKBbJJAdWTXDECBCCGDDNL
    BAKDbbBCbkKDbCCbDBbEBcMbFJAbTCBAeNBbIAeOLELiLEcFJBbCCAbWbEbXEbVQbMIMCbEMcENbWTfWCBUEAGACChQc
    LuEBhMbGeoCCfLAdSbFvIFeBBbsqEDBJbGBdCBkMADAEAXEEAdFBbYRbARNAbMHZMbSDbVNbKAcPNMAIBbTCbYABCCBF
    BBAbPEFBjCHBBbdzSAbcJPQPoCBxHAiSAfTEcmGCBBFDbOCEAgJBwBDcNEmFBdBDcSKbXDeSCcBObPACBKDbTKHAcJCb
    KNQBbSAMCbWNIDBBdOLGACAgBLVDcDBBGCBCCJAKBCGDEcPIBACABDBEBAOBdERXAdDTjBGCIbBBdEQeCMdXOjWOjLFB
    BCDBABBfLGCGDAbCJbOGBDIAJKbUPpPHBHdEVBNeSFDABBBGBAcOEBBBEnJDJBBAbWGDEXAhxTAGOqyYRdsAEcHGboIA
    BcCHDdDALBbdaXBgyZbTCWuWEDFIHCGbEDfSCcyDcCEbXIAOAWEBOcaIGBQCGBBBEdWAgEGoLAcJDtODjUBbcIGeFGbt
    caFdReYjF"),
  (["Format", "FO"], "
    gRAcaKFWAhKAbXAoUBdCAftJAdaQACBbAEbXEBJdghJAjPCgiZAPAnkKPbzqUDhwXHbtkzMA"),
  (["LF"], "KA"),
  (["Lower", "LO"], "
    dTZbVAKAEAbKXBHBABABABABABABABABABABABABABABABABABABABABABABABABABABABBBABABABABABABABBBABAB
    ABABABABABABABABABABABABABABABABABABABABACABABCCABACADBEACADCCACABABACABBBACADABACBCCGACACAB
    ABABABABABABABBBABABABABABABABABBCABADABABABABABABABABABABABABABABABABABABABABABABABABABABAB
    ABABGCACBBAEABABABABcQBbJHBbEEfKABADACDSAbBbIBBDCBABABABABABABABABABABABEBACACBbZbVBABABABAB
    ABABABABABABABABABABABABAJABABABABABABABABABABABABABABABABABABABABABABABABABABACABABABABABAB
    BBABABABABABABABABABABABABABABABABABABABABABABABABABABABABABABABABABABABABABABABABABABABABAB
    ABABAbWbOeiTAbdJFdfUIBAeNhJcNABABABABABABABABABABABABABABABABABABABABABABABABABABABABABABABA
    BABABABABABABABABABABABABABABABABABABABABABABABABABABABABABABABABABABABABABABABABABABIBABABA
    BABABABABABABABABABABABABABABABABABABABABABABABABABABABABABABABABABABABABABABABABABABABABABI
    IFKHIHIFKHIHINCHIHIHIEBBGADCBBIDCBIHKCBBeRANAQMeFADBDAbBAEAEACBIDEAbHPEAbgLZctQbVBADBBABABAE
    ABBBHDABABABABABABABABABABABABABABABABABABABABABABABABABABABABABABABABABABABABABABABABABABAB
    ABABABABABABBHABAEAMbLBAFAbtwDABABABABABABABABABABABABABABABABABABABABABABATABABABABABABABAB
    ABABABABABCfDABABABABABABCBABABABABABABABABABABABABABABABABABABABABABABABABABABABABABABJBABA
    CABABABABAEABACABCBABABABABABABABABABAFAFABABABABABABABAEABACADABABABABABAWCBABCbfPbQBNGdBbe
    aIGMEboZZbvHbNfGbJfZKBOBGBBrJACCBbPBIbxLbYeVVegObFbgjWbFbmmKZbAGBRbAZbADBABGBKbAZbAZbAZbAZbA
    ZbAZbAZbAZbAbBbCYBFbAYBFbAYBFbAYBFbAYBFBAcsYJBTGFkBcJdhSbH"),
  (["Numeric", "NU"], "
    bWJciOJBBfBJhQJpWJeOJeOJeOJeOJeOJeOJeOJeOJeOJdSJeOJcSJkSJcSJctQJbMJlOJeYJgKJGJhAJdIJfEJGJcae
    OJbaCJbMJhQJWJdIJpQJbfmCJccKJdfYJGJbeQJeYJcIJfOJkSJnEJeOJoKJdYJGTcYJqGJdYJzMJdIJjMJcSJqGJyyG
    JdmCJdIJfEJuOJbkdYJecQbXdnCJqGJtIJjNJbgVJhbAJ"),
  (["OLetter", "LE"], "
    rBAEDiAAbKGGLbAABAfDAsQAeObAEEbSbQbJBBdUBAPBHBKCCAQABbDbDdKLAYbGJBEAFVEAJADAXYHKFXBFRbPcGcBD
    ASAHJPPEHCBCVBGBADDDAQANBBCOBKAIFEBCVBGBBBBBBbFDBATCQIBCBVBGBBBEDASAPBXALHCBCVBGBBBEDAbEBBCP
    ARABFDCBDDBBABBDBDCDLWAcAHBCBWBPDAbACCACBbEAEHBCBWBJBEDAbFBBBPBRIBCBbOCAQAFCICYFFRDXBIBACGcG
    bVBBMGcGBBABEBXBABJBBJACEBAVDbGAcLHBbJbBEeLbQUAQFEDDADBHCEMMAcNbQCmTBDCGBABDCbOBDCbGBDCGBABD
    COBcEBDCcObLPeJxVCQBZFcWDKHRNSOROMBCPbZbJAEAcPdKHECbHBAFcRKbEbXbDCELbREZcCWJcAdEAdPbURHcCbDN
    BKbRbAbJbPCKbJSbQCCbPDBFBBDAbpQDcTCCDekTcDHAQWJGBGBGBGBGBGBGBGdCAsBCZIHECEEdHGCBdLBDFbQBdPRb
    FbWPtSjtNcMbguEcPbTCkIDPKBcOAQAbGdBbNIeAAGAdZADGBCBDBWbDbZObXcKFDABBLbBKWZbCHbUbCAQEBJKEBbOX
    CBHUWDADbXBADBCECABAYCCKHCMFCFCFJGBGfPbIbDqnRMWEbWmnCoBCeBcPABJBMBEBABBBBBeDbHnYScLCcBbOLeME
    BfEeBcDCbEDFCFCFCCbJLBZBSBBBOCNbIeScRcAkHbCDbWbVbFNbDFbLKbDCbJEHBEeScZdUbNIbZdObZMlYJVKHZBeV
    FCABbRBBDACWKWJbEcNSBBKVKZcScDGBcMAPDBCBbCbQbCDbCbJHBbBbBcBKVKSNReGcUhBbJbMFbFAkMbPGBQCcHbCK
    AIVbQRbUUbBWMcAcFBCANbSbGYbAbJbDACAIbIDAMbVODVABAbJRBYTBcLGBABDBOBJHbUbMHCBCVBGBBBEDASAMEbEJ
    BACABbLBAZABAbScASDUCbEbVUBBAhCbUbPDbKbVUAcHbQNAcTbAbLGhDbRiDHCACHBBBXPABAdQHCbMQABAbCAKbNHA
    VALbTTAScUhRbGbFIBbKRAbXbDeIGBBBbLVAZFBBBbFOAmPSPABMBbHeUAdBbjLdYeGRhNdxKdSPbpFRFZfxQFwKkdDb
    DcpUvWHbERdARbDSbVQDbFUFSqQbSpNcWFAcOMcMBBAbCjbZIbvPbPJnfRDBGBBBlEPAbDCCAODIpFdkUeCFMDIHJnbC
    AtHbSKGQAmJbDSbRsQbBiUbDCAtBGBDBBBOBhOfEAbuIDBbABBBACABJBDBABAGAEABABABCBBBACABABABABABBBACD
    BGBDBDBABJBQFCBEBQgoAclfBbGgdTGiNCinPOlbKPxXdqWuVcfYhhYFgfF"),
  (["SContinue", "SC"], "bSBMAbyOAgSBsWAgbXAFAdbEBgaUAdaaWBBAbDBbDBDACAKAgMBMAcVA"),
  (["STerm", "ST"], "
    bHAbDAcaBAfRCgYAbRCjMAcJABADBlHBcpWBbeKAEBbdTAhQBhWAFAmCBnQDgGBKBCBbDChFBcNBbkUBJCfgUANAWBqN
    AbshWAkKBiTADAoSBdIBdRAfWBfRCfOBjPAbffMBgNAbDAcNAedWBbxDEbSDhHBeNDeXCeZBGAQBdKBBBeEAlMBeNBoJ
    BFOeBBjPCtXABAjRBdJBqEBbaQBcWBbcmBBfDAcNBLAvHBlKAbdoGAliMA"),
  (["Sep", "SE"], "fDAlzMB"),
  (["Sp", "SP"], "JABBTAeXAihJAdpNKbKAbVAfxWA"),
  (["Upper", "UP"], "
    cNZdXWBGbHABABABABABABABABABABABABABABABABABABABABABABABABABABABACABABABABABABABACABABABABAB
    ABABABABABABABABABABABABABABABABABABBBABADBBABBBCCDBBBCDBBBBABABBBACABBBCBABBDAHBBBBBBABABAB
    ABABABABACABABABABABABABABACBBABCBABABABABABABABABABABABABABABABABABABABABABABABABABABABABAH
    BBBCABDBABABABAlDABADAIAGABCBABBBQBIbJACCDABABABABABABABABABABABAFACABBCbYbWABABABABABABABAB
    ABABABABABABABABAJABABABABABABABABABABABABABABABABABABABABABABABABABABABBBABABABABABACABABAB
    ABABABABABABABABABABABABABABABABABABABABABABABABABABABABABABABABABABABABABABABABABABABABACbL
    ehDbLBAFAbbUdHdgLAoKABABABABABABABABABABABABABABABABABABABABABABABABABABABABABABABABABABABAB
    ABABABABABABABABABABABABABABABABABABABABABABABABABABABABABABABABABABABABABABAJABABABABABABAB
    ABABABABABABABABABABABABABABABABABABABABABABABABABABABABABABABABABABABABABABABABABAJHIFKHIHI
    FLABABABAIHYHIHIHIELELDMELEkBAEADCCCCADEGABABABDCDKBFAbAPTAbfMZcsUbVbWABCCABABABDBACAICBABAB
    ABABABABABABABABABABABABABABABABABABABABABABABABABABABABABABABABABABABABABABABABABABABABABAB
    AIABAEAbtyJABABABABABABABABABABABABABABABABABABABABABABATABABABABABABABABABABABABABAfFABABAB
    ABABABADABABABABABABABABABABABABABABABABABABABABABABABABABABABABABABAKABABBBABABABAEABACABAD
    ABABABABABABABABABABEBEBABABABABABABABDBABBDAFABABABAYAbhaHZbuZbNfGbJgAKBOBGBBcqCbYgBVegObFb
    gjWbFbmmQZbAZbAZbAABBCACBCDBHbAZbABBDCHBGbBBBDBEBADGbBZbAZbAZbAZbAZbAZbEYbHYbHYbHYbHYbHAgnLb
    HdbIZGZGZ")]

end NamedCapture.Segmentation
