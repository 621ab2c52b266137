/-
NamedCapture/Unicode/BinaryProperty.lean

Properties that a character has or has not.
-/
import NamedCapture.Unicode.CharSet

namespace NamedCapture.BinaryProperty

/-- Names and members of each property; the first name is the long one. -/
def tables : List (List String × String) := [
  (["ASCII_Hex_Digit", "AHex"], "bWJHFbAF"),
  (["Alphabetic", "Alpha"], "
    cNZGZbVAKAEAFWBbEBrPELOEHABAdIAbDRBBCDBAGABCBABTBdEBfIIgJBbLCAGbObNNBABBBBBAIbAEDbDKFcDBGOdX
    BHEHECKCCAQbVNdWYbGJBEAFXCSTYHKFXBFIAIbPKLDGGcXBPBCEONSBHCBCVBGBADDDHCBCBBAIAEBBEMBKAECBFEBC
    VBGBBBBBBEEEBCBEAHDBARFLCBIBCBVBGBBBEDIBCBBDAPDVDECBHCBCVBGBBBEDHCBCBJBEBBENAQBBFDCBDDBBABBD
    BDCDLEEDCBCDAGAbOMBCBWBPDHBCBCIBBCCACDbCDBHBCBWBJBEDHBCBCIBGBBDNCMMBCBbOCHBCBCBAFDHEWFBCBRDX
    BIBACGIFBABHSBNcFFGGAbZBBABEBXBABSBCCEBAGAODbGAcLHBbJESEPBbJcPcCBACEQcLKDCbLBAFACbQBmUBDCGBA
    BDCbOBDCbGBDCGBABDCOBcEBDCcObLPQdHCFDxVCQBZFcWDKHTLUMTMMBCBBMbZCSOAEAcPdKHbQFcRKbEBLEIXbDCEL
    bREZcCbBEcKCTbYAXBLCbXbZBOBHbZbPCDKbRBKOcCWCKbJCKFbQCCbPDBFBBDAFhJTbHLkRCFCbLCFCHBABABABbECc
    ABGBADCBGDDCFEMFCBGeMANAQMdXAEACJBADEGABABABDBKCDFEEARbObfHbZcrUiUGDDBMbLBAFACcDHAQWJGBGBGBG
    BGBGBGBGBbFbVAsBCZIHECEEdHGCBdLBDFbQBdPRbFbWPtSjtNcMbguEcPbTCkIDPKBUbUFHDeIbNICdYCcOCBBABHVT
    BbGYbZMcPBAbSFDABCKbGFbINbCDbYBLPAQPKEBcCJNSWDcQBABAYCCPCDLFCFCFJGBGBbQBNGeSVqnRMWEbWmnCoBCe
    BbMGMEFLBMBEBABBBBBeDbHnYScLCcBbOLeMEBfEbKZGZLdKDFCFCFCCbJLBZBSBBBOCNbIeScRcAkHbCDbWbVbFNbDF
    bQFbDCbJEHBEbQgBSbJEbJEbNIbZMKBOBGBBBKBOBGBBDbZMlYJVKHYFBbPBIcRFCABbRBBDACWKWJbEcNSBBKVKZcSc
    DGBcMDBBFHBCBbCbQbCDbCbJHBbBbBcBKVKSNReGcUcDbYNbYNbNbIbBDAFWjQbPBBDBQCcDADbCKAIVbQRbUUbBWJcR
    bREKcEJANYXbYRDIbIDAJcLBDJBKABAbJRBbHCAGDcKGBABDBOBJHcEXDBHCBCVBGBBBEDHCBCBDAGAFGbCJBACABbLB
    JBACABDBBDABAbScNBCBDUCbEcNCBBAhCcBCGZFbIcKBADAcHcBCAcTbACNVGhDcEdZcLbFHCACHBBBbDBBCBCDdPHCb
    TCFBABBbBbYCJRcTFAScUhRbGbFIBbSBGBAbXbDCVBNcVGBBBbRDABBBCBACBYFBBBbKBBBDBAmPWJQBbODCeHAdBbjL
    dYeGRhNdxKdSPbpFRFZfxQFwKkdDbUcpDvWHbERdARbDSbVQDbFUFSqQbSiDcLeYcWEcEHQcMBBAMBOjbZIbvPbPJnfR
    DBGBBBlEPAbDCCAODIpFdkUeCFMDIHJEAiwFdGBcSBBCACBCDBLBABGBcMBDCHBGBbBBDBEBADGBnBCYBYBbEBYBbEBY
    BbEBYBbEBYBHcsYbEGFiFGBQCGBBBEFcJbHAeIbSKGQAmJbDSbRsQbBiUbDCAtBGBDBBBOBhOcHcPDADAbuIDBbABBBA
    CABJBDBABAGAEABABABCBBBACABABABABABBBACDBGBDBDBABJBQFCBEBQyEZGZGZfmKclfBbGgdTGiNCinPOlbKPxXd
    qWuVcfYhhYFgfF"),
  (["Bidi_Control", "Bidi_C"], "ciEAjvLBbAEcDD"),
  (["Bidi_Mirrored", "Bidi_M"], "
    bOBSABAbCABAbDABAbTAPAfmSDcuNBdqQBKBcCBOBgVAhKDDFDADBDDBDBABAEIFABRFDJBBABHBbFCDFAJBCSFBJECB
    EXCPIDUBHBbpTNcWACDBBBCFDFCDNpNVCFBNIAHFDAEEBBCEEABCCBKFCBMSBDCABACABDFBGCYBLBEDBBCBEbQCHBbN
    FABADEFCEADEBAjWAtVDDBBBOBCJbRHqLJCHdacRFFBgGBSABAbCABAbDABABBBBddpNAcFAcFAcFAcFA"),
  (["Case_Ignorable", "CI"], "
    bNAGALAbJABAcTAEABAEACBtJhJEBEAJBBAjRGhZAFAbXbSBABBBBBAbSALFKKBAbJAKUQAdXHBJBDbHABAbEbAdNKcG
    KEACAYXbRCbSAHBFIbPcFcDABAEHEADGKBNAPAcGAEDIAUBbAACBcFAEBEBCCDAbEBDALBcFAEEBBEAUBWFBAcGACABD
    IAHBLBbEAcJAMAbYADAcDABCFCBDHBLBbDAcGACAGAFBUBbCBcFBEDIAUBbDAcUAHCBAdMACGLIdUACIJABGcVBbBABA
    BAcDNBEBBFKBbJJAdYDBFBBCBZBECQDNACBGAPAdQAxKCbkKCbDBbEBbEBcMBBGIACKDAFAbTEbZAcNBbIAeOCEBJAGC
    iLBCAcGABGBABACHGJCAbNAIbEbXDbWABEBAFAbOIMBbGDCBBCcEABBDABCcGHCBcMFdECBMBGEAGADBbYcKNAbIdWrD
    ABCLCNCNCNBMEIBKACACEbXEBJBANAQMbZbGejRBeJCeVAPAdSbFbVAsBAbKDDEFAdPFdPCbqbUAbwCFkKAdUDBJBAbC
    DdCBObHdAAXCdZCDBIADAEAZBFAfVBbARNAbMHZKbUCbWACDCBRAVBcOFCBCBMAIAbJALAbZABCCBFBBAbBAOBFBBAdW
    EJCeRACAEAbdzSAfRQwBPDAMPbIACAgNAHAGALAbJABAbVAbTBcPAVCtTAiSAfTEbnPFBbPBIwKCBBFDbOCEAgJBwBDb
    MAbAEBAmDBdBDcSKbXDeTAcCObPACBKCbXDCBCAEAKAbYCbKEBHcKAMBcAIKDCAdRCCABBGACAgBADHVBcFBDAbLGDEc
    SFNABABAOBdHHCCBAXAdGFBAEBBBjEDGBBBbBBdHHCABBeCABACFBAdXABACDBEjZIBBjWBBAEAfODCBEAbGJbOFCDIA
    JFCCbUMBBpQGBFBAdEVCGBBBBeSFDABBBGBAcUBDABAnJBLBcAEFABAXAhxDQGOqyYLDCdsAEcHGJDtOCbOBsOAcLQcM
    BBBygPDBGBBeuGBBDgyUbTCWuYCJPCGbEDfSCcyDcCEbXIAOAWEBOcaIGBQCGBBBEFcJbHAgENoEAcJDtNEjUBbcIGeF
    HebFEbsxxPAbEdReYjF"),
  (["Cased"], "
    cNZGZbVAKAEAFWBbEBhMBDEhZCbIHBbEEdSAbQDCBCDBAGABCBABTBdEBfIIgJBbLJbOefFbLBAFACbQBDzWdHCFdfUK
    FbQCCcMhJcMkRCFCbLCFCHBABABABbECcABGBADCBGDDCFEMFCBGeMANAQMdXAEACJBADEGABABABDBFEACDFEEARbFD
    BbfLbZcrUiUGDDBMbLBAFAbtwCbTSbDfCdXDDBcJCBBABHVEBCbfPbQBNGdBbeaIGMEbnTZGZbtTdBdSbJEbJeMKBOBG
    BBBKBOBGBBrJACCBbPBIbuZbYNbYdPVKVefIcLbgiQcLbmlKdGBcSBBCACBCDBLBABGBcMBDCHBGBbBBDBEBADGBnBCY
    BYBbEBYBbEBYBbEBYBbEBYBHcsYJBTGFkBcJdgKcPdaAZGZGZ"),
  (["Changes_When_Casefolded", "CWCF"], "
    cNZdMAKWBHbGABABABABABABABABABABABABABABABABABABABABABABABABABABABACABABABABABABABABBBABABAB
    ABABABABABABABABABABABABABABABABABABABBBABABABBBABBBCCDBBBCDBBBBABABBBACABBBCBABBDAHBBBBBBAB
    ABABABABABABACABABABABABABABABACBBABCBABABABABABABABABABABABABABABABABABABABABABABABABABABAB
    ABAHBBBCABDBABABABAjMAbQABADAIAGABCBABBBQBIWAMCDBBABABABABABABABABABABABABBCBBABBCbYbWABABAB
    ABABABABABABABABABABABABABAJABABABABABABABABABABABABABABABABABABABABABABABABABABABBBABABABAB
    ABACABABABABABABABABABABABABABABABABABABABABABABABABABABABABABABABABABABABABABABABABABABABAB
    ABABABACbLbWAefGbLBAFAbfEFdfUJGbQCCmIABABABABABABABABABABABABABABABABABABABABABABABABABABABA
    BABABABABABABABABABABABABABABABABABABABABABABABABABABABABABABABABABABABABABABABABABABABABABA
    BAFBCABABABABABABABABABABABABABABABABABABABABABABABABABABABABABABABABABABABABABABABABABABABA
    BABABABABAJHIFKHIHIFLABABABAIHQbVCCCFFCCFLDMEFCCFlLADBGAbTPTAbfMZcsUbVbWABCCABABABDBACAICBAB
    ABABABABABABABABABABABABABABABABABABABABABABABABABABABABABABABABABABABABABABABABABABABABABAB
    ABAIABAEAbtyJABABABABABABABABABABABABABABABABABABABABABABATABABABABABABABABABABABABABAfFABAB
    ABABABABADABABABABABABABABABABABABABABABABABABABABABABABABABABABABABABAKABABBBABABABAEABACAB
    ADABABABABABABABABABABEBEBABABABABABABABDBABBDAFABABABAYAbiGdBbeaIGMEbnTZbuZbNfGbJgAKBOBGBBc
    qCbYgBVegObFbgjWbFbulKbH"),
  (["Changes_When_Casemapped", "CWCM"], "
    cNZGZcGAKWBbEBcLBdFBbBCNCBBAEdOBRGbABBBABBDBBDBECABBCAHACABBDFFAKBgKAbQDCBDCBAGABCBABTBbUDbG
    BEBfCIgJBbLKbMefGbLBAFACbQCCzWdHCFdfUKFbQCChDADAQAeJfZCABeNCFCbLCFCHBABABABbECcABGBADCBGDDCF
    EMFCBGlLADBGAbBARbFDBbfLbZcrUeIBBBBHdXHDDBMbLBAFAbtwCbTSbBfENCcJJODCCEBYBbDCBBABHYBbhCAbCdBb
    eaIGMEbnTZGZbtTdBdSbJEbJeMKBOBGBBBKBOBGBBcoPbYNbYdPVKVefIcLbgiQcLbukEcP"),
  (["Changes_When_Lowercased", "CWL"], "
    cNZdXWBGbHABABABABABABABABABABABABABABABABABABABABABABABABABABABACABABABABABABABACABABABABAB
    ABABABABABABABABABABABABABABABABABABBBABADBBABBBCCDBBBCDBBBBABABBBACABBBCBABBDAHBBBBBBABABAB
    ABABABABACABABABABABABABABACBBABCBABABABABABABABABABABABABABABABABABABABABABABABABABABABABAH
    BBBCABDBABABABAlDABADAIAGABCBABBBQBIbJAIABABABABABABABABABABABAFACABBCbYbWABABABABABABABABAB
    ABABABABABABABAJABABABABABABABABABABABABABABABABABABABABABABABABABABABBBABABABABABACABABABAB
    ABABABABABABABABABABABABABABABABABABABABABABABABABABABABABABABABABABABABABABABABABABABACbLeh
    DbLBAFAbbUdHdgLAGbQCCmIABABABABABABABABABABABABABABABABABABABABABABABABABABABABABABABABABABA
    BABABABABABABABABABABABABABABABABABABABABABABABABABABABABABABABABABABABABABABABAJABABABABABA
    BABABABABABABABABABABABABABABABABABABABABABABABABABABABABABABABABABABABABABABABABABABAJHIFKH
    IHIFLABABABAIHYHIHIHIELELDMELElLADBGAbTPTAbfMZcsUbVbWABCCABABABDBACAICBABABABABABABABABABABA
    BABABABABABABABABABABABABABABABABABABABABABABABABABABABABABABABABABABABABABAIABAEAbtyJABABAB
    ABABABABABABABABABABABABABABABABABABABATABABABABABABABABABABABABABAfFABABABABABABADABABABABA
    BABABABABABABABABABABABABABABABABABABABABABABABABABAKABABBBABABABAEABACABADABABABABABABABABA
    BABEBEBABABABABABABABDBABBDAFABABABAYAbhaHZbuZbNfGbJgAKBOBGBBcqCbYgBVegObFbgjWbFbulKbH"),
  (["Changes_When_Titlecased", "CWT"], "
    dTZcGAbPXBHBABABABABABABABABABABABABABABABABABABABABABABABABABABABACABABABABABABABBBABABABAB
    ABABABABABABABABABABABABABABABABABABACABABCCABACADAFACADCCACABABACAEACADABACADABAEABBBBBABAB
    ABABABABABABBBABABABABABABABABCBABADABABABABABABABABABABABABABABABABABABABADABABABABABABABAB
    AIACBBAEABABABABFBBBABBDBBDBECABBCAHACABBDFFAKBgKAbRABADADCSAbBbIBBDCBABABABABABABABABABABAB
    EBACACAcAbVBABABABABABABABABABABABABABABABABAJABABABABABABABABABABABABABABABABABABABABABABAB
    ABABABACABABABABABABBBABABABABABABABABABABABABABABABABABABABABABABABABABABABABABABABABABABAB
    ABABABABABABABABABABABABAbXbMfmEFdfUIBAjEADAQAeKABABABABABABABABABABABABABABABABABABABABABAB
    ABABABABABABABABABABABABABABABABABABABABABABABABABABABABABABABABABABABABABABABABABABABABABAB
    ABABABABABABGFABABABABABABABABABABABABABABABABABABABABABABABABABABABABABABABABABABABABABABAB
    ABABABABABABABABIIFKHIHIFKHIHINCHIHIHIEBBGADCBBIDCBIHKCBBnEAbHPEAbgLZctQbVBADBBABABAGACAKABA
    BABABABABABABABABABABABABABABABABABABABABABABABABABABABABABABABABABABABABABABABABABABABABABA
    BABAIABAEAMbLBAFAbtwDABABABABABABABABABABABABABABABABABABABABABABATABABABABABABABABABABABABA
    BAfFABABABABABABADABABABABABABABABABABABABABABABABABABABABABABABABABABABABABABAKABACABABABAB
    AEAEABBCABABABABABABABABABALABABABABABABABAEABACADABABABABABAbAAbhCAbCdBbeaIGMEboZZbvHbNfGbJ
    fZKBOBGBBcrBbYeVVegObFbgjWbFbulMbH"),
  (["Changes_When_Uppercased", "CWU"], "
    dTZcGAbPXBHBABABABABABABABABABABABABABABABABABABABABABABABABABABABACABABABABABABABBBABABABAB
    ABABABABABABABABABABABABABABABABABABACABABCCABACADAFACADCCACABABACAEACADABACADABAFBBBBBBABAB
    ABABABABABBBABABABABABABABABBBBBADABABABABABABABABABABABABABABABABABABABADABABABABABABABABAI
    ACBBAEABABABABFBBBABBDBBDBECABBCAHACABBDFFAKBgKAbRABADADCSAbBbIBBDCBABABABABABABABABABABABEB
    ACACAcAbVBABABABABABABABABABABABABABABABABAJABABABABABABABABABABABABABABABABABABABABABABABAB
    ABABACABABABABABABBBABABABABABABABABABABABABABABABABABABABABABABABABABABABABABABABABABABABAB
    ABABABABABABABABABABABAbXbMehCbQCCbdGFdfUIBAjEADAQAeKABABABABABABABABABABABABABABABABABABABA
    BABABABABABABABABABABABABABABABABABABABABABABABABABABABABABABABABABABABABABABABABABABABABABA
    BABABABABABABABABGFABABABABABABABABABABABABABABABABABABABABABABABABABABABABABABABABABABABABA
    BABABABABABABABABABABIIFKHIHIFKHIHINCcABBEABADCBBEADDCBIHKCBBEAmZAbHPEAbgLZctQbVBADBBABABAGA
    CAKABABABABABABABABABABABABABABABABABABABABABABABABABABABABABABABABABABABABABABABABABABABABA
    BABABABABAIABAEAMbLBAFAbtwDABABABABABABABABABABABABABABABABABABABABABABATABABABABABABABABABA
    BABABABAfFABABABABABABADABABABABABABABABABABABABABABABABABABABABABABABABABABABABABABAKABACAB
    ABABABAEAEABBCABABABABABABABABABALABABABABABABABAEABACADABABABABABAbAAbhCAbCdBbeaIGMEboZZbvH
    bNfGbJfZKBOBGBBcrBbYeVVegObFbgjWbFbulMbH"),
  (["Dash"], "
    bTAcaUAbZAfkJAbnPAdbDFcJAbNAPApAAeoIACAbFBEAbCArEATAeHAczwABbLAKAgNAflOAmGA"),
  (["Default_Ignorable_Code_Point", "DI"], "gRAzXAbbOAegWBckHBdHEdaPEbAEbXPgkYAczmPPjFAgEAdBIctlNDhwXHbtkzLgbN"),
  (["Deprecated", "Dep"], "mRAbyVAdkTABAdcJBdiJFbaVBbzryKA"),
  (["Diacritic", "Dia"], "
    dQABAcTAGAEACBtJgCBHFFRBEAJBjTEiBAcDbSBABBBBBAfBHEBfEBEBDCcPbAdNKcGKbIBeWHbPJQbBcJAQADDbCAcW
    AQAeGAQAeGAQAbVCcIAQAHAePAeGAQAeGAQAeFBQAeUAeHAMFBAeDANEcXBbBABABAEBcOCBBcKAeIABBbOBEEZGBAKB
    bbDCbkMBbEAfSKJAnJClGAUHCAbWOCKeAAPAbMIcCBcGALBcOBcMFdEYEAGACCbYcKbWbJFLbLKrDABCLCNCNCNBexKC
    mFAtMFeBDdRAbsmKAMBBAbCBdEBObHdYCeFBMAbLAfVAbBRcFDbKAdRAMAbKAfTCcNDbZAdWEJCeYBbdzSAbdPPkKABA
    bVAbTBcPAbdKAbtNFBbPBIyNCEAgJBvZFbMAbAEpJCcSKbXDhKAbPAcUBeQBcKAcYAJCeABgWBdCBQAYGDEdLCBBNBdR
    ADAeTBjRBeWAeOBeLAkJBjYBEAgAAdFASAdDAqFAjYABBdDAqJBXAhyAOqzPAdsAEcHGvSBvAQdCBygCDBGBBltHbTCW
    uYCDFIHCGbEDfmWcJhMGoLAcJDbdMBbcIGeFCBC"),
  (["Emoji"], "
    bJAGAFJeHAEAlyRAMAiIAWAdMFPBoDBMAgKAZKEChRAiXBKAJAcGDBEJACACBCAEACABBCADADBICFABAFLLBCABBBAS
    ACBSFBABBDBFACBEBLBFBCAFBBABBUBFFBDCAEACACFBACABABAGADAGAKBPACAEABAECBALBbWCJAOAOAoIBrVCTBbZ
    AEAbvUAMAxDABAgmrQAhUAgEBMBOACJcXZBBXAUACIVBgSbHCeHCBBCCdECCBkCBcKLFBXHBCHMACDCAEBNBCAIBJAFC
    MCICCABAEAGADAGdHbWcRFHCCEJDABBDACJiTLEAkXbUBJBhCeIMDJFcDHOCKGI"),
  (["Emoji_Component", "EComp"], "bJAGAFJmbJAiFAdftRAdoiWZtNEceADbsvuQdR"),
  (["Emoji_Modifier", "EMod"], "hhiXE"),
  (["Emoji_Modifier_Base", "EBase"], "
    olHAiLAQDgsjVAcICCACCeNBCKVSDAECBCHABAYAhTBEAVAEBgSCDEdFAQCJALAwDACAIHGAJJCCcEAcJBBBBARCBMiV
    CbQI"),
  (["Emoji_Presentation", "EPres"], "
    nhQBhXDDACAuBBVBbYLbRATANAIBRBFBIAFAVAHBBAEACAHAEBbCAbJABAECBAcJCYAOAbhBBbZAEAgplEAhUAhIACJc
    XZBAYAUACEBCVBgSbGMIBcRBVMbQEEMQDADcSBABhECcKNDBXSAbABNAdIdGbWcRGADCCCEDLBHIiTLEAkXbUBJBhCeI
    MDJFcDHOCKGI"),
  (["Extended_Pictographic", "ExtPict"], "
    gNAEAlyRAMAiIAWAdMFPBoDBMAgKAZKEChRAiXBKAJAcGDBEJACACBCAEACABBCADADBICFABAFLLBCABBBASACBSFBA
    BBDBFACBEBLBFBCAFBBABBUBFFBDCAEACACFBACABABAGADAGAKBPACAEABAECBALBbWCJAOAOAoIBrVCTBbZAEAbvUA
    MAxDABAgmrQAbNDdWLPBPAOBbLJeIBMBOACJTcDbBOKAUACIBDJWGhFCeHCBBCCdECCBDFjTBcKLFBXHBCHMACDCAEBN
    BCAIBJAFCMCICCABAEAGADAGdHbWcRFHCQDABFCMiKbLMDcEHKFbOHbEBMDCNJbMMbUBJBhCdKHOfPjWbnH"),
  (["Extender", "Ext"], "
    hBAuQBbhUAqZAyGAfHAdLAbcYAeXAdnFAcEAxNApIAcQAhkJAbREdZBdPCbqbUAcgSAblAAWAfHAeEAVBbfzVAdbKBcf
    BAbBAEAbvBAlHAeMBtECbvJAbeoFBbtKBBAbqyABbuFAbgUC"),
  (["Grapheme_Base", "Gr_Base"], "
    bGdQbHMBwVeIHCFEGBABTBiPHgJBbLCbXCCbUABACACAJbAEFRJLABbTVPBdWIAGBCAEbFCABbDbDdKLAObQJGDXEAJA
    DAHOBYFABKFbERbPcFcCBABDIDBCHJCbCBBBHCBCVBGBADDDABBGBCBBANBBCEXFABFEBCVBGBBBBBBECYDBAHJCCBAM
    ABIBCBVBGBBBEDDIABBDAPBELHAIBBHCBCVBGBBBEDACAGBCBPBBCERLABFDCBDDBBABBDBDCDLFABBDCBCDAVUGCBHB
    CBWBPDADDTCCACBEJHJBKBCBWBJBEDBCABBYBBBEJBCOKBCBbOCABBFCBCBBECBJEZCBBRDXBIBACGJBGGHJCCMbVBBL
    HIMbLBBABEBXBABJBBJACEBAJJCDbGXCbABABABNBbJSAFACEbXHBFBMbLbSEAGACBCYCDDPEMBBCFBOBbNBAFACoMBD
    CGBABDCbOBDCbGBDCGBABDCOBcEBDCcOFbCDZGdHCFCzSDdKHRNSDBJROMBCPbZCAHHBBLIDJGJGKFJGdKHECbHBAFcR
    KbEEDCCEBBFHADbPCELbREZGKDcECBDcDBAJABBIFNJGJGNdIbVKDDHBbCJLCbFEBGcDBACCBANbVIBFODcJFbQCKLAN
    AHDBFBCCAFhJcMkRCFCbLCFCHBABABABbECcABOBNCFBSCCBIBKFXHbWQBCbABMDbGcLfJEzPWKVcrRCbFBnFDBFbSBA
    FACcDHBPWJGBGBGBGBGBGBGBGbHdPbIZBdKMiFbAcFGPBdHEdWFbQBdPBdHJbVBbriQDcCJnJUbUEAKbFCdBCFIhXCBB
    ABHVPBCBDBYCEEJGcDIcPKLYMBbLIYLAMbDGbVBBEBCBBMBKEGBYBbOGBCBLCBHBACJCbFBbYBADBCECABAYQCHLFCFC
    FJGBGBcHEeMBBBDDJGqnRMWEbWmnCoBCeBbMGMEFABXBEBABBBBBeUQrCCcBHAbGPQJWbIBSBDEEBfEEgACbEDFCFCFC
    CDGBGNBCLBZBSBBBOCNbIeSFCEbSDdJBMDAbVbSfBbCDbWQbAEbJJbDFbLKbDBbKENbQgBCJGbJEbJEbNIbZLLBOBGBB
    BKBOBGBBDbZMlYJVKHYFBbPBIcRFCABbRBBDACWBcTIIbWSBBFbGDbAFAcMcDETCbUPDBCBbCKIHIHcLbGbKGLJcBDbC
    CbAFZHDMGdCcUcDbYNbYHbPMJGbLIXIBiAbEBbPDACBQCcHbNIVLIWREDbMbBUWJABcBPGEbDBBCAMbWEBCBBDOYHJJb
    JFAJRIbIBCLbZJABHEBBPBTLRBbBDBEFBBcLGBABDBOBKGbUBCNJIBBHCBCVBGBBBEDABABDCBCBDAMGbCJBACABbLBA
    BBPABBDABCBBbNcDIBDABUBABCbEbVBBGABBBACACDIJgKbUBBGDCACbAbKbYIBBACDLJGMTbQBABBIBGJGTbCbADABB
    EAJWhDbUJACAdWdEMHCACHBBBXBEBBGDBCJJcSHCbPIDBDbBAKbNGBEHJAGBDbTNACINcUHJhAbHOJGIBbLOABFKbCDb
    FZAHACAcXGBBBbLVAJJGFBBBbKEBBABAHJlYSCDJOBbJIBDWdIAPbXNbjMdYeGBELhNdxKdUNbpFRFZfxQFwKkdDbDMC
    DJcoSvWHbEBJEdCBJGbDHAKbVHOKJBGBUFSqQcFhQdMdXcWFcDLMcMDbCjbZIbvPbPJnfRDBGBBBlEPAbDCCAODIpFdk
    UeCFMDIHJCACAfvKjPGqTgAeLcIjLKbMCcHFCWBHbDEcIVcNDAeSTMTMdIJYfFdGBcSBBCACBCDBLBABGBcMBDCHBGBb
    BBDBEBADGBnBClFCvPcDDbYHBNBGbrWbEGFkBcJfQbSKGCJEBmIbDSbREJFArWbBEJiGbDCKEAsMGBDBBBOBhOCIbWcP
    HAEJEBbeFcPcYcIhMDBbABBBACABJBDBABAGAEABABABCBBBACABABABABABBBACDBGBDBDBABJBQFCBEBQcABkKbREd
    VMOCOBOBbKKgRcEbCNbREIHBOFfYblVEQDMDeOEdQGLEAPLEcDIJGbNIbDCLEBcKnBMNCMDJFcDHOCKGIHfQBdXbnQcl
    fBbGgdTGiNCinPOlbKPxXdqWuVcfYhhYFgfF"),
  (["Grapheme_Extend", "Gr_Ext"], "
    bdOeHkPGkDbSBABBBBBAcUKbWUQAdXGCFCBBDbJAbEbAdNKcGIJAYDBIBCBEbRCcHIbQXBbFcDABAEHEADGKBbDAcGAB
    ACDIAJAKBbAACBcFAEBEBCCDAbEBDALBcFAEEBBEAUBWFBAcGABBBDIAHCKBbEAcHABAMAJAbOADAcDABCFCBDHBLBbD
    AcGACBBADCBDHBLBbCBcFBBACDIAJAKBbDAcUAEACCBAIAdDACGMHdUACILGcVBbBABABAcDNBEBBFKBbJJAdYDBFBBC
    BZBECQDNACBGAPAbbBCbkKDbCCbDBbEBcMBBGIACKJAbTCBAeNBbIAeOCEBJAGCiLBCAcGABGBABACHGJCAbWbEbXDbW
    JECbMIMBbGDCFcEABBDABEcEHCBfWCBMBGEAGADBhQcLuEAhNbGeoCCfLAdSbFvIFeBBbsqEDBJbGBdCBkMADAEAZBFA
    fVBbARNAbMHZKBAbSCbWACDCBCAbKAcPFCBCBMAIAbVAbZABCCBFBBAbQBIAjEACAEAbdzSAbcJPQPoCBxHAiSAfTEcm
    GCBBFDbOCEAgJBwBDcNEmFBdBDcSKbXDeTAcCObPACBKCbXDCBHAcJCbKEBHcKAMBcAIBAIDCAdRCCDGACAgBADHVBcF
    BBABAMAJAOGDEcPACFBACABCECBAOBdHHCCBAXAdDACFBACABBBBjBACDGBBBbBBdHHCABBeCABACHdXABACDBEjZIBB
    jLAKDEAfODCBEAbGJbOFCDIAJFCCbUMBBpQGBFBAdEVCGBBBBeSFDABBBGBAcUBDABAnJBLBcAEFCXAhxTAGOqyYLDCd
    sAEcHGboIAcLDdDALBbdaXBgyZbTCWuWEDFIHCGbEDfSCcyDcCEbXIAOAWEBOcaIGBQCGBBBEdWAgEGoLAcJDtODjUBb
    cIGeFGbtcaFdReYjF"),
  (["Grapheme_Link", "Gr_Link"], "
    dnPAeXAeXAeXAeXAeXAeXAeXAeFBQAeUAeHAeXAhTAgYBcpLBbEAgBAzDAiTAdXBcSBgqTAbukKAbLAfVAfMAeEAlXAj
    MAbjsRAchIAbPAOAcFAeRBfJAeMAgYAdUAeYCeJAeXAjSAeXAeOAeMAkJAjZBgFAdFASAdDAqFAkABdDAqJByzCA"),
  (["Hex_Digit", "Hex"], "bWJHFbAFdslLJHFbAF"),
  (["Hyphen"], "bTAeXAbvWAgzZAdbDBfiBAbcLAczuLAgNAdJA"),
  (["IDS_Binary_Operator", "IDSB"], "seABCJtDA"),
  (["IDS_Trinary_Operator", "IDST"], "seCB"),
  (["IDS_Unary_Operator", "IDSU"], "seOB"),
  (["ID_Compat_Math_Continue"], "gWBFAmaGADKBOoHAEAWAgjjEAZAbFAZAbFAZAbFAZAbFAZA"),
  (["ID_Compat_Math_Start"], "mwWAEAWAgjjEAZAbFAZAbFAZAbFAZAbFAZA"),
  (["ID_Continue", "IDC"], "
    bWJHZEABZbVAKABACAFWBbEBrPELOEHABAReMBBCDBAGEBABTBdEBfIBECgJBbLCAGbOIbSBABBBBBAIbAEDbDKFcVEd
    XBHCJBSCAQcGCdWOcBEACACbTSbBEKFXBFIcWBeYCJBSBHCBCVBGBADDCICBCDIAEBBECLKABACCBFEBCVBGBBBBBBCA
    BEEBCCDAHDBAHPLCBIBCBVBGBBBECJBCBCCAPDCJJGBCBHCBCVBGBBBECICBCCHCEBBECJBAQBBFDCBDDBBABBDBDCDL
    EEDCBDCAGAOJQMBCBWBPCIBCBDHBBCCACDCJQDBHBCBWBJBECIBCBDHBGBBDCJBCMMBCBbYBCBEFDHECJKFBCBRDXBIB
    ACGDAEFBABHGJCBNcFFOBJbNBBABEBXBABWCEBABGBJCDbGAXBGJLABABAEJBbJETBRBbJJAcFcVGcZCbLBAFACbQBmU
    BDCGBABDCbOBDCbGBDCGBABDCOBcEBDCcOCCJIOPQdHCFDxVCQBZFcWDKHVJVLTMMBCBBMdFDAEBCJbHCBKGdKHbQFcR
    KbEBLELKbNCELbREZGKbLbBEcKBbCCKGJNAINBPbXcYDJRIMeLMcDIJDbWCKFbQCCQCBbMFuNCFCbLCFCHBABABABbEC
    cABGBADCBGDDCFEMFCBGPBbXBTAbCANAQMbZMEADLRAEACJBACFGABABABPCDFEEARbOdzBiUGIMbLBAFACcDHAPXJGB
    GBGBGBGBGBGBGBbFtXCZOBECEEdHCGBdQFbQBdPRbFbWPtSjtNcMbguEcPbTCkIDbBUbVEJBeKbLICdYCcOCBBABHVcB
    EATbZMcRKJGXDABbWCbJMbCDcMOKGbEBcCJNCJGWDcUYCCPCEKFCFCFJGBGBbQBNGeSBBCJGqnRMWEbWmnCoBCeBbMGM
    EFLBMBEBABBBBBeDbHnYScLCcBbOLEPQPDBYCbGEBfETJHZEABZKdLDFCFCFCCbJLBZBSBBBOCNbIeScRcAfGAfAbCDb
    WPAbFbFNbDFbQFbDCbJEHBEbQgBCJGbJEbJEbNIbZMKBOBGBBBKBOBGBBDbZMlYJVKHYFBbPBIcRFCABbRBBDACWKWJb
    EcNSBBKVKZcScDGBcMDBBFHBCBbCCCEAbGbCDbCbJHBbDZcBKVKSNReGcUcDbYNbYNbNIJGbLDEBWjQbPBBDBQCcDbGK
    AIbGbFVbQUbBWJcSbFPJcHHANYHJGcABJEDIbJCAJcQEDBMBAbJRBbKGDcKGBABDBOBJHcGFJGDBHCBCVBGBBBEBJCBC
    CCAGAFGCGDELJBACABbLBJBACABDBHNBbDcWFJEDbEcRBAIJgKcBCIXFbIcMDALJbMcEHJGTbCbACOEJGGhDcGdXcVVH
    CACHBBBbDBBCIMJcSHCbTCHBBbBcKIAIcVDAScUhRbGPJGIBbSBIPJYbDCVBNcVGBBBbRDABBBIIJGFBBBbKBBBFHJlY
    WJQBbODENKdHAdBbjLdYeGRhNdxKdSPbpFQVKfxQFwKkdDcFcoSvWHbEBJGdABJGbDCELcCJDMJJUFSqQbSDJhQcLeYc
    WEcEHQcMBBBLBOjbZIbvPbPJnfRDBGBBBlEPAbDCCAODIpFdkUeCFMDIHJDBgeRJtYbTCWuWEDFIHCGbEDfSCrBdGBcS
    BBCACBCDBLBABGBcMBDCHBGBbBBDBEBADGBnBCYBYBbEBYBbEBYBbEBYBbEBYBHCbXtScCEbXIAOAWEBObqMbEGFiFGB
    QCGBBBEFcJbHAeIbSDNCJEAmJbERcFsCbPiGbQsRGBDBBBOBhOLGbPcXEJbtUDBbABBBACABJBDBABAGAEABABABCBBB
    ACABABABABABBBACDBGBDBDBABJBQFCBEBQfaAJbnQclfBbGgdTGiNCinPOlbKPxXdqWuVcfYhhYFgfFbonhGjF"),
  (["ID_Start", "IDS"], "
    cNZGZbVAKAEAFWBbEBrPELOEHABAeZEBBCDBAGABCBABTBdEBfIIgJBbLCAGbOcTbAEDbTbQbJBBdUBAPBHBKCCAQABb
    DbDdKLAYbGJBEAFVEAJADAXYHKFXBFRbPcGcBDASAHJPPEHCBCVBGBADDDAQANBBCOBKAIFEBCVBGBBBBBBbFDBATCQI
    BCBVBGBBBEDASAPBXALHCBCVBGBBBEDAbEBBCPARABFDCBDDBBABBDBDCDLWAcAHBCBWBPDAbACCACBbEAEHBCBWBJBE
    DAbFBBBPBRIBCBbOCAQAFCICYFFRDXBIBACGcGbVBBMGcGBBABEBXBABJBBJACEBAVDbGAcLHBbJbBEeLbQUAQFEDDAD
    BHCEMMARbLBAFACbQBmUBDCGBABDCbOBDCbGBDCGBABDCOBcEBDCcObLPQdHCFDxVCQBZFcWDKHRNSOROMBCPbZbJAEA
    cPdKHbOBAFcRKbEbXbDCELbREZcCWJcAdEAdPbURHcCbDNBKbRbAbJbPCKbJCKFbQCCbPDBFBBDAFhJcMkRCFCbLCFCH
    BABABABbECcABGBADCBGDDCFEMFCBGeMANAQMdXAEACJBACFGABABABPCDFEEARbOdzBiUGDDBMbLBAFACcDHAQWJGBG
    BGBGBGBGBGBGvECZIHECEEdHEEBdLBDFbQBdPRbFbWPtSjtNcMbguEcPbTCkIDPKBUbUQbECdBbNICdYCcOCBBABHVPB
    CBDBWbDbZObXcKFDABBLbBKWZbCHbUbCAQEBJKEBbOXCBHUWDADbXBADBCECABAYCCKHCMFCFCFJGBGBbQBNGeKbDqnR
    MWEbWmnCoBCeBbMGMEFABJBMBEBABBBBBeDbHnYScLCcBbOLeMEBfEbKZGZLdKDFCFCFCCbJLBZBSBBBOCNbIeScRcAk
    HbCDbWbVbFNbDFbLKbDCbJEHBEbQgBSbJEbJEbNIbZMKBOBGBBBKBOBGBBDbZMlYJVKHYFBbPBIcRFCABbRBBDACWKWJ
    bEcNSBBKVKZcScDGBcMAPDBCBbCbQbCDbCbJHBbBbBcBKVKSNReGcUcDbYNbYNbJbMbBJWjQbPGBQCcHbCKAIVbQRbUU
    bBWMcAcFBCANbSbGYbAbJbDACAIbIDAMbVODVABAbJRBYTBcLGBABDBOBJHbUbMHCBCVBGBBBEDASAMEbEJBACABbLBA
    ZABAbScASDUCbEbVUBBAhCbUbPDbKbVUAcHbQNAcTbAbLGhDbReMcLbFHCACHBBBXPABAdQHCbMQABAbCAKbNHAVALbT
    TAScUhRbGbFIBbKRAbXbDeIGBBBbLVAZFBBBbFOAmPSPABMBbHeUAdBbjLdYeGRhNdxKdSPbpFRFZfxQFwKkdDbDcpUv
    WHbERdARbDSbVQDbFUFSqQbSiDcLeYcWFAcOMcMBBAbCjbZIbvPbPJnfRDBGBBBlEPAbDCCAODIpFdkUeCFMDIHJiwKd
    GBcSBBCACBCDBLBABGBcMBDCHBGBbBBDBEBADGBnBCYBYBbEBYBbEBYBbEBYBbEBYBHcsYbEGFkBcJfQbSKGQAmJbDSb
    RsQbBiUbDCAtBGBDBBBOBhOcHcPHAbuIDBbABBBACABJBDBABAGAEABABABCBBBACABABABABABBBACDBGBDBDBABJBQ
    FCBEBQgoAclfBbGgdTGiNCinPOlbKPxXdqWuVcfYhhYFgfF"),
  (["Ideographic", "Ideo"], "
    seWBZIOCblDjtNcMbfbJbhsIoBCeBbsiKAbBjbZIbvPbPJnuLpFbdeIclfBbGgdTGiNCinPOlbKPxXdqWuVcfYhhYFgf
    F"),
  (["Join_Control", "Join_C"], "mdOB"),
  (["Logical_Order_Exception", "LOE"], "fkIEeTEedSCCAccxMBCABB"),
  (["Lowercase", "Lower"], "
    dTZbVAKAEAbKXBHBABABABABABABABABABABABABABABABABABABABABABABABABABABABBBABABABABABABABBBABAB
    ABABABABABABABABABABABABABABABABABABABABACABABCCABACADBEACADCCACABABACABBBACADABACBCCGACACAB
    ABABABABABABABBBABABABABABABABABBCABADABABABABABABABABABABABABABABABABABABABABABABABABABABAB
    ABABGCACBBAEABABABABcQCbIHBbEEdSAbRABADACDSAbBbIBBDCBABABABABABABABABABABABEBACACBbZbVBABABA
    BABABABABABABABABABABABABABAJABABABABABABABABABABABABABABABABABABABABABABABABABABACABABABABA
    BABBBABABABABABABABABABABABABABABABABABABABABABABABABABABABABABABABABABABABABABABABABABABABA
    BABABABAbWbOehBbQBDbdGFdfUIBAeNhJcNABABABABABABABABABABABABABABABABABABABABABABABABABABABABA
    BABABABABABABABABABABABABABABABABABABABABABABABABABABABABABABABABABABABABABABABABABABABABABI
    BABABABABABABABABABABABABABABABABABABABABABABABABABABABABABABABABABABABABABABABABABABABABABA
    BABABIIFKHIHIFKHIHINCHIHIHIEBBGADCBBIDCBIHKCBBeRANAQMeFADBDAbBAEAEACBIDEAbHPEAbgLZctQbVBADBB
    ABABAEABBBHDABABABABABABABABABABABABABABABABABABABABABABABABABABABABABABABABABABABABABABABAB
    ABABABABABABABABABBHABAEAMbLBAFAbtwDABABABABABABABABABABABABABABABABABABABABABABATABABABABAB
    ABABABABABABABABCfDABABABABABABCBABABABABABABABABABABABABABABABABABABABABABABABABABABABABABA
    BJBABACABABABABAEABACABCBABABABABABABABABABAFAFABABABABABABABAEABACADABABABABABAWCBABCbfPbQB
    NGdBbeaIGMEboZZbvHbNfGbJfZKBOBGBBrJACCBbPBIbxLbYeVVegObFbgjWbFbmmKZbAGBRbAZbADBABGBKbAZbAZbA
    ZbAZbAZbAZbAZbAZbAbBbCYBFbAYBFbAYBFbAYBFbAYBFBAcsYJBTGFkBcJdhSbH"),
  (["Math"], "
    bRAQCbFAbDABAbTAEAbLAbFAbcACCAbABCCuHCjwNAbBCLADANAODVELEcNMEADBEESAEACJBACFGADBCBBCBFDNBAcQ
    XBFBBEBEbFBAGBOkHIDUBdMAbEbABAYALGrDBMJEFEBCBDEOABACFLHFBcFABAbDDJCmYcLjWtRbWUCFdasQAbfRFBAg
    GAQCbDABAbDABAfBAGDfeFBcxdWdGBcSBBCACBCDBLBABGBcMBDCHBGBbBBDBEBADGBnBClFCbXiiQDBbABBBACABJBD
    BABAGAEABABABCBBBACABABABABABBBACDBGBDBDBABJBQFCBEBQcAB"),
  (["Modifier_Combining_Mark", "MCM"], "ckIBCAfBAGADBsNBBCDAbFA"),
  (["Noncharacter_Code_Point", "NChar"], "
    dsdCbFuGBdsyOBdsyOBdsyOBdsyOBdsyOBdsyOBdsyOBdsyOBdsyOBdsyOBdsyOBdsyOBdsyOBdsyOBdsyOBdsyOB"),
  (["Other_Alphabetic", "OAlpha"], "
    bhJMwENBABBBBBAcUKbWMBGQAdXGEDCBEAbJAbEPdYKdXBDIBCBDeCAcILDGGTcCBCOBBFCKBbDCcGGCBCBKAKBbDCcG
    EEBCBEAbEBDALCcGHBCBBVBWCECcGGCBCBJBKBbEAcHEDCBCKAbOEcFGBCBCIBLBbDCcGGBCBCIBLBPAMDcGGBCBCKAK
    BbDCcXFBABHSBcJACGSAdVACFBBQAgHSJKBbJeGLBACDXDECBCCGDDNLBAKDclOBbEBbEBbEBcOShGBbIAeOLEIiOEcF
    JCTcWBLCbXEbWOcICbEICBcFKbYSpWbHgaTbFbtqAHbIBnQAIAXEdKBbYPBAcFAbMEbCLbTDbWLbLAcPNMAIBbTCbYAB
    CCBFAbSEFAjDHbdzVAdeDEcmGCBBFDbeIDcNAmJBdBAjZCcBNbTBLCbTIJAcJCbKLSBcFCbWMOBdOICAGACAgBJXDcGG
    CBCBKAKBdGIBACABDBBdZMBCeCRjDGCGbDBdEOBAeCKdZNjXMjNFBBCBDABAfMGCFEAbCJbQEBDSKbUNpRHBGdFVBNeS
    FDABBBCBADAcOEBBBDnKDJBBAbWGDCyyNQfjCABcCHDdPBbdaYAnkJGBQCGBBBEdWAdhVA"),
  (["Other_Default_Ignorable_Code_Point", "ODI"], "bgPAfiLBckHBdhNAglIAdacPAdBIbwmiHABbDdSeXjGfiL"),
  (["Other_Grapheme_Extend", "OGr_Ext"], "
    drYAYAnUAYAdYAYAiYABAEBBBJBdZAYAePAPAdmRAbEAbnKAFABAFBdXAcTBboIAgcVBbtwTAeEAbgnLBgwMAeMAkEAO
    AJAdSAJACABCFAiQAMAjHAkCAyJAMAchFAbeoKBbkxNBGFbtlaZdR"),
  (["Other_ID_Continue", "OIDC"], "hBAbbRAgaJIclCAciZBgkRAdaeJA"),
  (["Other_ID_Start", "OIDS"], "jhLBdgJAVAfvWB"),
  (["Other_Lowercase", "OLower"], "
    gOAPAtHIHBbEEdSAcAAfcZAepZcKNAbIbKbaNANAQMiDPbgQZcwOBbugKBiCAeZCDBbhIDJAbiwSACCBbPBIddzHcJ"),
  (["Other_Math", "OMath"], "
    dQAbhXCCAbABCBkqYAbBCLAbGDYBOBcNMEADBEESAEACJBADEGADBCBBCBFDDFEcXECDBBBBBABECBEBERCBBABGBAGB
    lEDgMBBAYARArDBMIFEFBCBDEOABACFYBcFABAbDDJBnEBbFJpNVcLDbGBdclFABAEAiDABAdcoVdGBcSBBCACBCDBLB
    ABGBcMBDCHBGBbBBDBEBADGBnBCYBYBbEBYBbEBYBbEBYBbEBYBHCbXiiQDBbABBBACABJBDBABAGAEABABABCBBBACA
    BABABABABBBACDBGBDBDBABJBQFCBEBQ"),
  (["Other_Uppercase", "OUpper"], "mqQPbgGZgsiYZGZGZ"),
  (["Pattern_Syntax", "Pat_Syn"], "
    bHOKGbADBAbADbIGBABBBABBEAEADAXAbFAluEXIOCSBJlTbbRgEyFbEbrNtSeXoVCEYPAczqZBkBB"),
  (["Pattern_White_Space", "Pat_WS"], "JESAdWAlyMBYB"),
  (["Prepended_Concatenation_Mark", "PCM"], "chCFiHAbXAoUBdCAdvxYAPA"),
  (["Quotation_Mark", "QMark"], "bIAEAfBAPAlwUHZBfiDArPDNCdabPDhHAEAdMB"),
  (["Radical"], "rpWZBdKMiF"),
  (["Regional_Indicator", "RI"], "hgoKZ"),
  (["Sentence_Terminal", "STerm"], "
    bHAMAQAcaBAfRCgYAbRCjMAcJABADBlHBcpWBbeKAEBbdTAhQBgBBbTAFAmCBnQDgGBKBCBbDChFBcNBbjWAXBJCeuXC
    lUANAWBqNAbshWAkKBiTADAoSBdIBdRAfWBfRCfOBjPAbfcWACBcHADBgNAMAQAcNAedWBbxDEbSDhHBeNDeXCeZBGAQ
    BdKBBBeEAlMBeNBoJBFOeBBjPCtXABAjRBdJBqEBbaQBcWBbcmBBfDAcNBLAvHBlKAbdoGAliMA"),
  (["Soft_Dotted", "SD"], "
    eBBhOAkVAbEAcAAUAmIAdUABAjmNAbZANADAfCAgBAqFAiGBegGAgelHBbYBbYBbYBbYBbYBbYBbYBbYBbYBbYBbYBbY
    BdfYAlTBbAA"),
  (["Terminal_Punctuation", "Term"], "
    bHAKABALBDAbfYAIAtTAcFAcUAOABCgYAbRKBAjBBcCFBHbFAkBBbwUBgQAEFlZBbeJHbdTAeUCcTBgBCDAbNDCBmCBn
    QDgGBKBBCbDChFEcKBbjWAXBJCeuXClUANAEAKABBDBqMBbshVBkJCiTEoSBdIBdRAfVCfRCeXAQBjPAbfcWACBcFCBD
    gNAKABALBDAcNACAbpQAbWAbsOAhRAlYBfWFcQFdLDbkQEbSDhHGeIDeXCeZBGAQBdKEeEAlMBeNCMBnUDDOeBBjPCtX
    ABAjRBdJBEBpYCbTAyVBcWBbyXEbamZBfDAcNCKAvHBlJBbdoGAliLD"),
  (["Unified_Ideograph", "UIdeo"], "tsAjtNcMbfbJbicSBBABBKABABBCCdveCclfBbGgdTGiNCinPOlbKPxXgrQhhYFgfF"),
  (["Uppercase", "Upper"], "
    cNZdXWBGbHABABABABABABABABABABABABABABABABABABABABABABABABABABABACABABABABABABABACABABABABAB
    ABABABABABABABABABABABABABABABABABABBBABADBBABBBCCDBBBCDBBBBABABBBACABBBCBABBDAHACACACABABAB
    ABABABABACABABABABABABABABACACABCBABABABABABABABABABABABABABABABABABABABABABABABABABABABABAH
    BBBCABDBABABABAlDABADAIAGABCBABBBQBIbJACCDABABABABABABABABABABABAFACABBCbYbWABABABABABABABAB
    ABABABABABABABABAJABABABABABABABABABABABABABABABABABABABABABABABABABABABBBABABABABABACABABAB
    ABABABABABABABABABABABABABABABABABABABABABABABABABABABABABABABABABABABABABABABABABABABABACbL
    ehDbLBAFAbbUdHdgLAGbQCCmIABABABABABABABABABABABABABABABABABABABABABABABABABABABABABABABABABA
    BABABABABABABABABABABABABABABABABABABABABABABABABABABABABABABABABABABABABABABABABAJABABABABA
    BABABABABABABABABABABABABABABABABABABABABABABABABABABABABABABABABABABABABABABABABABABABAJHIF
    KHIHIFLABABABAIHcUDMDMDMELDkCAEADCCCCADEGABABABDCDKBFAbAPTAbfMZcsUbVbWABCCABABABDBACAICBABAB
    ABABABABABABABABABABABABABABABABABABABABABABABABABABABABABABABABABABABABABABABABABABABABABAB
    AIABAEAbtyJABABABABABABABABABABABABABABABABABABABABABABATABABABABABABABABABABABABABAfFABABAB
    ABABABADABABABABABABABABABABABABABABABABABABABABABABABABABABABABABABAKABABBBABABABAEABACABAD
    ABABABABABABABABABABEBEBABABABABABABABDBABBDAFABABABAYAbhaHZbuZbNfGbJgAKBOBGBBcqCbYgBVegObFb
    gjWbFbmmQZbAZbAZbAABBCACBCDBHbAZbABBDCHBGbBBBDBEBADGbBZbAZbAZbAZbAZbAZbEYbHYbHYbHYbHYbHAgnLb
    HdbIZGZGZ"),
  (["Variation_Selector", "VS"], "jcTCBAdjcAPbwnkYjF"),
  (["White_Space", "WSpace", "space"], "JESAdWAbAAihJAdpNKbDBFAbVAfxWA"),
  (["XID_Continue", "XIDC"], "
    bWJHZEABZbVAKABACAFWBbEBrPELOEHABAReMBBDCBAGEBABTBdEBfIBECgJBbLCAGbOIbSBABBBBBAIbAEDbDKFcVEd
    XBHCJBSCAQcGCdWOcBEACACbTSbBEKFXBFIcWBeYCJBSBHCBCVBGBADDCICBCDIAEBBECLKABACCBFEBCVBGBBBBBBCA
    BEEBCCDAHDBAHPLCBIBCBVBGBBBECJBCBCCAPDCJJGBCBHCBCVBGBBBECICBCCHCEBBECJBAQBBFDCBDDBBABBDBDCDL
    EEDCBDCAGAOJQMBCBWBPCIBCBDHBBCCACDCJQDBHBCBWBJBECIBCBDHBGBBDCJBCMMBCBbYBCBEFDHECJKFBCBRDXBIB
    ACGDAEFBABHGJCBNcFFOBJbNBBABEBXBABWCEBABGBJCDbGAXBGJLABABAEJBbJETBRBbJJAcFcVGcZCbLBAFACbQBmU
    BDCGBABDCbOBDCbGBDCGBABDCOBcEBDCcOCCJIOPQdHCFDxVCQBZFcWDKHVJVLTMMBCBBMdFDAEBCJbHCBKGdKHbQFcR
    KbEBLELKbNCELbREZGKbLbBEcKBbCCKGJNAINBPbXcYDJRIMeLMcDIJDbWCKFbQCCQCBbMFuNCFCbLCFCHBABABABbEC
    cABGBADCBGDDCFEMFCBGPBbXBTAbCANAQMbZMEADLRAEACJBACFGABABABPCDFEEARbOdzBiUGIMbLBAFACcDHAPXJGB
    GBGBGBGBGBGBGBbFtXCZOBECEEdHCBCCBdQFbQBdPRbFbWPtSjtNcMbguEcPbTCkIDbBUbVEJBeKbLICdYCcOCBBABHV
    cBEATbZMcRKJGXDABbWCbJMbCDcMOKGbEBcCJNCJGWDcUYCCPCEKFCFCFJGBGBbQBNGeSBBCJGqnRMWEbWmnCoBCeBbM
    GMEFLBMBEBABBBBBeDbHfIGiJScLCcBbOJGPQPDBYCbHABADABABABABeVTJHZEABZKdLDFCFCFCCbJLBZBSBBBOCNbI
    eScRcAfGAfAbCDbWPAbFbFNbDFbQFbDCbJEHBEbQgBCJGbJEbJEbNIbZMKBOBGBBBKBOBGBBDbZMlYJVKHYFBbPBIcRF
    CABbRBBDACWKWJbEcNSBBKVKZcScDGBcMDBBFHBCBbCCCEAbGbCDbCbJHBbDZcBKVKSNReGcUcDbYNbYNbNIJGbLDEBW
    jQbPBBDBQCcDbGKAIbGbFVbQUbBWJcSbFPJcHHANYHJGcABJEDIbJCAJcQEDBMBAbJRBbKGDcKGBABDBOBJHcGFJGDBH
    CBCVBGBBBEBJCBCCCAGAFGCGDELJBACABbLBJBACABDBHNBbDcWFJEDbEcRBAIJgKcBCIXFbIcMDALJbMcEHJGTbCbAC
    OEJGGhDcGdXcVVHCACHBBBbDBBCIMJcSHCbTCHBBbBcKIAIcVDAScUhRbGPJGIBbSBIPJYbDCVBNcVGBBBbRDABBBIIJ
    GFBBBbKBBBFHJlYWJQBbODENKdHAdBbjLdYeGRhNdxKdSPbpFQVKfxQFwKkdDcFcoSvWHbEBJGdABJGbDCELcCJDMJJU
    FSqQbSDJhQcLeYcWEcEHQcMBBBLBOjbZIbvPbPJnfRDBGBBBlEPAbDCCAODIpFdkUeCFMDIHJDBgeRJtYbTCWuWEDFIH
    CGbEDfSCrBdGBcSBBCACBCDBLBABGBcMBDCHBGBbBBDBEBADGBnBCYBYBbEBYBbEBYBbEBYBbEBYBHCbXtScCEbXIAOA
    WEBObqMbEGFiFGBQCGBBBEFcJbHAeIbSDNCJEAmJbERcFsCbPiGbQsRGBDBBBOBhOLGbPcXEJbtUDBbABBBACABJBDBA
    BAGAEABABABCBBBACABABABABABBBACDBGBDBDBABJBQFCBEBQfaAJbnQclfBbGgdTGiNCinPOlbKPxXdqWuVcfYhhYF
    gfFbonhGjF"),
  (["XID_Start", "XIDS"], "
    cNZGZbVAKAEAFWBbEBrPELOEHABAeZEBBDCBAGABCBABTBdEBfIIgJBbLCAGbOcTbAEDbTbQbJBBdUBAPBHBKCCAQABb
    DbDdKLAYbGJBEAFVEAJADAXYHKFXBFRbPcGcBDASAHJPPEHCBCVBGBADDDAQANBBCOBKAIFEBCVBGBBBBBBbFDBATCQI
    BCBVBGBBBEDASAPBXALHCBCVBGBBBEDAbEBBCPARABFDCBDDBBABBDBDCDLWAcAHBCBWBPDAbACCACBbEAEHBCBWBJBE
    DAbFBBBPBRIBCBbOCAQAFCICYFFRDXBIBACGcGbVBANGcGBBABEBXBABJBAKACEBAVDbGAcLHBbJbBEeLbQUAQFEDDAD
    BHCEMMARbLBAFACbQBmUBDCGBABDCbOBDCbGBDCGBABDCOBcEBDCcObLPQdHCFDxVCQBZFcWDKHRNSOROMBCPbZbJAEA
    cPdKHbOBAFcRKbEbXbDCELbREZcCWJcAdEAdPbURHcCbDNBKbRbAbJbPCKbJCKFbQCCbPDBFBBDAFhJcMkRCFCbLCFCH
    BABABABbECcABGBADCBGDDCFEMFCBGeMANAQMdXAEACJBACFGABABABPCDFEEARbOdzBiUGDDBMbLBAFACcDHAQWJGBG
    BGBGBGBGBGBGvECZIHECEEdHGCBdLBDFbQBdPRbFbWPtSjtNcMbguEcPbTCkIDPKBUbUQbECdBbNICdYCcOCBBABHVPB
    CBDBWbDbZObXcKFDABBLbBKWZbCHbUbCAQEBJKEBbOXCBHUWDADbXBADBCECABAYCCKHCMFCFCFJGBGBbQBNGeKbDqnR
    MWEbWmnCoBCeBbMGMEFABJBMBEBABBBBBeDbHfIGiJScLCcBbOJePABADABABABABeVbKZGZLcDCbEDFCFCFCCbJLBZB
    SBBBOCNbIeScRcAkHbCDbWbVbFNbDFbLKbDCbJEHBEbQgBSbJEbJEbNIbZMKBOBGBBBKBOBGBBDbZMlYJVKHYFBbPBIc
    RFCABbRBBDACWKWJbEcNSBBKVKZcScDGBcMAPDBCBbCbQbCDbCbJHBbBbBcBKVKSNReGcUcDbYNbYNbJbMbBJWjQbPGB
    QCcHbCKAIVbQRbUUbBWMcAcFBCANbSbGYbAbJbDACAIbIDAMbVODVABAbJRBYTBcLGBABDBOBJHbUbMHCBCVBGBBBEDA
    SAMEbEJBACABbLBAZABAbScASDUCbEbVUBBAhCbUbPDbKbVUAcHbQNAcTbAbLGhDbReMcLbFHCACHBBBXPABAdQHCbMQ
    ABAbCAKbNHAVALbTTAScUhRbGbFIBbKRAbXbDeIGBBBbLVAZFBBBbFOAmPSPABMBbHeUAdBbjLdYeGRhNdxKdSPbpFRF
    ZfxQFwKkdDbDcpUvWHbERdARbDSbVQDbFUFSqQbSiDcLeYcWFAcOMcMBBAbCjbZIbvPbPJnfRDBGBBBlEPAbDCCAODIp
    FdkUeCFMDIHJiwKdGBcSBBCACBCDBLBABGBcMBDCHBGBbBBDBEBADGBnBCYBYBbEBYBbEBYBbEBYBbEBYBHcsYbEGFkB
    cJfQbSKGQAmJbDSbRsQbBiUbDCAtBGBDBBBOBhOcHcPHAbuIDBbABBBACABJBDBABAGAEABABABCBBBACABABABABABB
    BACDBGBDBDBABJBQFCBEBQgoAclfBbGgdTGiNCinPOlbKPxXdqWuVcfYhhYFgfF")]

/-- Members of a property, by its long name. -/
def members (name : String) : CharSet :=
  match tables.find? (fun t => t.1.head? = some name) with
  | some t => .ofTable t.2
  | none => .empty

end NamedCapture.BinaryProperty
