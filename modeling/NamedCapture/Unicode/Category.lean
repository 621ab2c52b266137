/-
NamedCapture/Unicode/Category.lean

General categories.  Every character has exactly one of the twenty-nine single
categories in `tables`; a category such as `Letter` groups several of them.
-/
import NamedCapture.Unicode.CharSet

namespace NamedCapture.Category

/-- Names and members of each single category; the first name is the short one. -/
def tables : List (List String × String) := [
  (["Lu", "Uppercase_Letter"], "
    cNZdXWBGbHABABABABABABABABABABABABABABABABABABABABABABABABABABABACABABABABABABABACABABABABAB
    ABABABABABABABABABABABABABABABABABABBBABADBBABBBCCDBBBCDBBBBABABBBACABBBCBABBDAHACACACABABAB
    ABABABABACABABABABABABABABACACABCBABABABABABABABABABABABABABABABABABABABABABABABABABABABABAH
    BBBCABDBABABABAlDABADAIAGABCBABBBQBIbJACCDABABABABABABABABABABABAFACABBCbYbWABABABABABABABAB
    ABABABABABABABABAJABABABABABABABABABABABABABABABABABABABABABABABABABABABBBABABABABABACABABAB
    ABABABABABABABABABABABABABABABABABABABABABABABABABABABABABABABABABABABABABABABABABABABABACbL
    ehDbLBAFAbbUdHdgLAGbQCCmIABABABABABABABABABABABABABABABABABABABABABABABABABABABABABABABABABA
    BABABABABABABABABABABABABABABABABABABABABABABABABABABABABABABABABABABABABABABABABAJABABABABA
    BABABABABABABABABABABABABABABABABABABABABABABABABABABABABABABABABABABABABABABABABABABABAJHIF
    KHIHIFLABABABAIHcUDMDMDMELDkCAEADCCCCADEGABABABDCDKBFAcJAdzGbVbWABCCABABABDBACAICBABABABABAB
    ABABABABABABABABABABABABABABABABABABABABABABABABABABABABABABABABABABABABABABABABABABABAIABAE
    AbtyJABABABABABABABABABABABABABABABABABABABABABABATABABABABABABABABABABABABABAfFABABABABABAB
    ADABABABABABABABABABABABABABABABABABABABABABABABABABABABABABABAKABABBBABABABAEABACABADABABAB
    ABABABABABABABEBEBABABABABABABABDBABBDAFABABABAYAbhaHZbuZbNfGbJgAKBOBGBBcqCbYgBVegObFbgjWbFb
    mmQZbAZbAZbAABBCACBCDBHbAZbABBDCHBGbBBBDBEBADGbBZbAZbAZbAZbAZbAZbEYbHYbHYbHYbHYbHAgnLbH"),
  (["Ll", "Lowercase_Letter"], "
    dTZcGAbPXBHBABABABABABABABABABABABABABABABABABABABABABABABABABABABBBABABABABABABABBBABABABAB
    ABABABABABABABABABABABABABABABABABABACABABCCABACADBEACADCCACABABACABBBACADABACBCCGACACABABAB
    ABABABABABBBABABABABABABABABBCABADABABABABABABABABABABABABABABABABABABABABABABABABABABABABAB
    GCACBBAEABABABABcQCZhLABADADCSAbBbIBBDCBABABABABABABABABABABABEBACACBbZbVBABABABABABABABABAB
    ABABABABABABABAJABABABABABABABABABABABABABABABABABABABABABABABABABABACABABABABABABBBABABABAB
    ABABABABABABABABABABABABABABABABABABABABABABABABABABABABABABABABABABABABABABABABABABABAbWbOe
    hBbQCCbdGFdfUIBAeNbRcLMBbHdYABABABABABABABABABABABABABABABABABABABABABABABABABABABABABABABAB
    ABABABABABABABABABABABABABABABABABABABABABABABABABABABABABABABABABABABABABABABABABABIBABABAB
    ABABABABABABABABABABABABABABABABABABABABABABABABABABABABABABABABABABABABABABABABABABABABABII
    FKHIHIFKHIHINCHIHIHIEBBGADCBBIDCBIHKCBBkOADBDAbBAEAEACBIDEAcBAebBbVBADBBABABAEABBBFFABABABAB
    ABABABABABABABABABABABABABABABABABABABABABABABABABABABABABABABABABABABABABABABABABABABABABBH
    ABAEAMbLBAFAbtwDABABABABABABABABABABABABABABABABABABABABABABATABABABABABABABABABABABABABAfFA
    BABABABABABCBABABABABABABABABABABABABABABABABABABABABABABABABABABABABABABABHBABACABABABABAEA
    BACABCBABABABABABABABABABAFAFABABABABABABABAEABACADABABABABABAbAADAbfPbQFIHdBbeaIGMEboZZbvHb
    NfGbJfZKBOBGBBcrBbYeVVegObFbgjWbFbmmKZbAGBRbAZbADBABGBKbAZbAZbAZbAZbAZbAZbAZbAZbAbBbCYBFbAYB
    FbAYBFbAYBFbAYBFBAcsYJBTGFduDbH"),
  (["Lt", "Titlecase_Letter"], "rLACACAbMAlfHHIHIHMAPAbVA"),
  (["Lm", "Modifier_Letter"], "
    baMRELOEHABAfDAFAsKAiWAgIBkJBEAbFAJADAgEAgLAbvOAeXAvTAcpMAeDAxNArWFgScKNAbIbKbaNANAQMemXBjHA
    hJAsBAbREFAdTBdPCbqbUAbwCFkKAeKAbCBeRIdCAXAeBCDBsBAWAfHAeEAVBdZDJAbfvIAbTBczOFBbPBIccXAbGAbj
    nSDtOCbOBvEMcMBBAygQDBGBBsgNcJhTGbkFAbrBA"),
  (["Lo", "Other_Letter"], "
    gOAPAjWAEDiABbfUbAEDbTbFBJbJBBdUBAYBKCCAQABbDbDdKLAYbGVVbQYHKFXBFRbOcHcBDASAHJQOEHCBCVBGBADD
    DAQANBBCOBKAIFEBCVBGBBBBBBbFDBATCQIBCBVBGBBBEDASAPBXALHCBCVBGBBBEDAbEBBCPARABFDCBDDBBABBDBDC
    DLWAcAHBCBWBPDAbACCACBbEAEHBCBWBJBEDAbFBBBPBRIBCBbOCAQAFCICYFFRDXBIBACGcGbVBBMFcHBBABEBXBABJ
    BBJACEXDbGAcLHBbJbBEeLbQUAQFEDDADBHCEMMAeJmQBDCGBABDCbOBDCbGBDCGBABDCOBcEBDCcObLPeJxVCQBZFcW
    GHHRNSOROMBCPbZbOAcPbIBcAHECbHBAFcRKbEbXbDCELbREZcCWJcAgUbURHcCbDNBKbRbAbJbPCKbDeJDBFBBDAbpQ
    DenVcDYWJGBGBGBGBGBGBGBGvFAcBAEdHIABdLEAFbQBdPRbFbWPtSjtNcMbfcEBbrYcPbNIkHEPKBcOAbXcRgNAdZAD
    GBCBDBWbDbZObXcKFDABBLbBKWZbCHbUbTECIKEBbOXCBHUPBFDADbXBADBCECABAYBDKHAOFCFCFJGBGfPbIbDqnRMW
    EbWmnCoBCeBcPABJBMBEBABBBBBeDbHnYScLCcBbOLeMEBfEeBJBbSCbEDFCFCFCCbJLBZBSBBBOCNbIeSoZbCDbWbVb
    FNTBHGbLKbDCbJEHeYcZdUbNIbZdObZMlYJVKHfWFCABbRBBDACWKWJbEcNSBBKVKZcScDGBcMAPDBCBbCbQbCDbCbJH
    BbBbBcBKVKSNReGcUhBbJbMDBAlSbPGBQCcHbCKAIVbQRbUUbBWMcAcFBCANbSbGYbAbJbDACAIbIDAMbVODVABAbJRB
    YTBcLGBABDBOBJHbUbMHCBCVBGBBBEDASAMEbEJBACABbLBAZABAbScASDUCbEbVUBBAhCbUbPDbKbVUAcHbQNAcTbAb
    LGhDbRiDHCACHBBBXPABAdQHCbMQABAbCAKbNHAVALbTTAScUhRbGbFIBbKRAbXbDeIGBBBbLVAZFBBBbFOAmPSPABMB
    bHeUAdBbjLiWhNdxKdSPbpFRFZfxQFwKkdDbDcpUvWHbERdARbDSbVbZUFSqTbNpPcWFAgTjbZIbvPbPJngHlEPAbDCC
    AODIpFdkUeCFMDIHJnbCAtHbSbHAmJbDSbRsQbAiVbDCAtBGBDBBBOBhObzNDBbABBBACABJBDBABAGAEABABABCBBBA
    CABABABABABBBACDBGBDBDBABJBQFCBEBQgoAclfBbGgdTGiNCinPOlbKPxXdqWuVcfYhhYFgfF"),
  (["Mn", "Nonspacing_Mark"], "
    bdOeHkPEkFbSBABBBBBAcUKbWUQAdXGCFCBBDbJAbEbAdNKcGIJAYDBIBCBEbRCcHIbQXBbFcDABAEHEADGKBbDAcGAE
    DIAUBbAACBcFAEBEBCCDAbEBDALBcFAEEBBEAUBWFBAcGACABDIAHBLBbEAcJAMAbYADAcDABCFCBDHBLBbDAcGACAGA
    FBUBbCBcFBEDIAUBbDAcUAHCBAdMACGMHdUACILGcVBbBABABAcDNBEBBFKBbJJAdYDBFBBCBZBECQDNACBGAPAbbBCb
    kKCbDBbEBbEBcMBBGIACKJAbTCBAeNBbIAeOCEBJAGCiLBCAcGABGBABACHGJCAbWNBPbXDbWABEBAFAbOIMBbGDCBBC
    cEABBDABCcGHCBfWCBMBGEAGADBhQcLbbSMEADLeoCCfLAdSbFvIDeDBbsqEAEJbGBdCBkMADAEAZBFAfVBbARNAbMHZ
    KbUCbWACDCBbNAcPFCBCBMAIAbVAbZABCCBFBBAbQBIAjEACAEAbdzSAbcJPQPblLAiSAfTEcmGCBBFDbOCEAgJBwBDc
    NEmFBdBDcSKbXDeTAcCObPACBKCbXDCBHAcJCbKEBHcKAMBcAIKDCAdRCCABBGACAgBADHVBcFBDAbLGDEcSFNABABAO
    BdHHCCBAXAdGFBAEBBBjEDGBBBbBBdHHCABBeCABACFBAdXABACDBEjZIBBjWBBAEAfODCBEAbGJbOFCDIAJFCCbUMBB
    pQGBFBAdEVCGBBBBeSFDABBBGBAcUBDABAnJBLBcAEFABAXAhxTAGOqyYLDCdsAEcHGboIAcLDdDAbdbKBgyZbTCWuYC
    RHCGbEDfSCcyDcCEbXIAOAWEBOcaIGBQCGBBBEdWAgEGoLAcJDtODjUBbcIGeFGbtciVjF"),
  (["Mc", "Spacing_Mark"], "
    dkTAcDACCIDBBbYBcGCGBCBKAbRAcGCcOAcGCIABBcBBcGABAGBCBKAdYBBBDCBCKAbPCcJDcJBcGABECBBBJBbCAOBc
    GCFCBCKAbQBcXCGHSBmSBcLAgPBEAGACBZBKCCGVBCFCAKCclSAbEAeZAHHBBnIDCCEBBFiQBcGABAJABBIFfPAbWAFA
    BEBBcJAbEAEBCAcIACCBADBbWHIBgPAVAhhEBbtlBBCAdKBbYPfMBbVAbWBEBCCeGBCBYAbTABAeFACBFAjDBBBBBBAb
    lxJABAeXAbTCEBeLAYBcHAbWCJBNAdPCDBBAgOCbFBcGBBDCBCCJAKBdGCHACABDBBBAdXCIBDAeCCGABDCAjDCGDCAe
    JCIBBAeFABBGAdZABBEAkBCJAjNFBBEACABAfMCIDEAdGAbDBcKApRAOAeCAHACAiFEEBBAnMBMAbWBIBBAyyYCfjGcC
    eABbkxNBGF"),
  (["Me", "Enclosing_Mark"], "bsQBikQAciGDBCbyoXC"),
  (["Nd", "Decimal_Number", "Digit"], "
    bWJciOJfEJhQJpWJeOJeOJeOJeOJeOJeOJeOJeOJeOJdSJeOJcSJkSJcSJctQJbMJlOJeYJgKJGJhAJdIJfEJGJcaeOJ
    baCJbMJhQJWJdIJpQJbfmCJccKJdfYJGJbeQJeYJcIJfOJkSJnEJeOJoKJdYJGTcYJqGJdYJzMJdIJjMJcSJqGJyyGJd
    mCJdIJfEJuOJbkdYJecQbXdnCJqGJtIJjNJbgVJhbAJ"),
  (["Nl", "Letter_Number"], "irUCdyTbICDfmSAZIOCbsyLJbifGcArSAIAfEEmeSeG"),
  (["No", "Other_Number"], "
    gWBFACCdmRFoMFeQCfDGiJGRIqRJbpLTbrVJsMAcmVADFGJhQPbPAbbYcHdAVyGbDcbHAbtCDfIJbEHBObGJbNObsmIF
    bhqNbScNDRBnDbAbKDbzGHZGbNIcXEWFgEBCPCbTcMIcABbECcXEeAHYHbPGmSFnObEgCJbQDeIGfEToPTbzXBqOIbhN
    SbgTUbcpQGbeSWblyFTMTeEYibUIbjTcGBCBDcYbSBOblAM"),
  (["Pc", "Connector_Punctuation"], "dRAmbVBTAdgaOBYCjFA"),
  (["Pd", "Dash_Punctuation"], "bTAcaUAbZAfkJAbnPAdbDFfhXACAbFBEAbCArEATAeHAczwABbLAKAgNAflOAmGA"),
  (["Ps", "Open_Punctuation"], "
    bOAbYAbFAfpEABAcuOAdpMADAbMAcDAPAyKABAbEAbpUABABABABABABAdCAbGABABABABApOABABABABABABABABABA
    BAcMABAbHAboVABABABAZASABABABAqMABABABABADABABABACAczrTAiHAbDABABABABABABABADARABABAgOAbYAbF
    ADACA"),
  (["Pe", "Close_Punctuation"], "
    bPAbZAbFAfpDABAcuOAdrDAcDAPAyKABAbEAbpUABABABABABABAdCAbGABABABABApOABABABABABABABABABABAcMA
    BAbHAboVABABABAbSABABABAqMABABABABADABABABACBczrQAiJAbDABABABABABABABADARABABAgOAbZAbFACACA"),
  (["Pi", "Initial_Punctuation"], "gPAlxKACBCAZAffSABAEACAPADA"),
  (["Pf", "Final_Punctuation"], "hFAlwVADAbCAffSABAEACAPADA"),
  (["Po", "Other_Punctuation"], "
    bHCBCCABABBKBDBbBAcQAFAOBHAbbAAIArYFbPAcCACACAbSBUBBBNABCcWDdYAbRNiZCcCObFAkBBKAfKAeQAeRApAA
    MAoDAdMAKBgMOBAeIAcWEEBeHFgPAxOIbdTAeUCcTBgBCBCbLFBDmBBiIBeYGBFgEBKGbCCeUDcHEcKBcMHLAbgCBIHI
    ICDCCDKBABJeuCDBBeIAfNBECCACIBBBACBKEBJCDBABMCCqMCcFAhHAbryGBkJCdVAKAeLFoQDdIBbOCBAbXBbVAdTM
    QBeUDeWBQBjPAbfcUGCAWAUBCDDCBDHCGABBfTCBCCABABBKBDBbBAbKACBpUCzSAbWApYAbcPAhRAbFAkMIbMAeIGcO
    GdLDbkQEbSDhHGeFBBDeWDbWBdBDEANABCdKFeDAlMBBBeKEKBBAeAAjQWeBCbCMcYAfACjSAkECfZAdOHdFCBEdPJiH
    AdREbQByVBcWMgTAbrSEejCBwdVBfDAcNEIAvGClJDmPAbdbOAliLEeiTAbhEB"),
  (["Sm", "Math_Symbol"], "
    bRAQCcJABAbTAEAbLAbFAbdMAuHCjyHANAbNCNCfJAbNEGAcQEFBEACACAHAbFBCABAbFkHbGBdMAbEYbOFsBAJAcCHe
    HAmYECbEKPjWfAWcKEbFCjXbWUCFdasQAbfSABCgIAQCcJABAfBAGDfeFBcyeZAZAbFAZAbFAZAbFAZAbFAZAiuEB"),
  (["Sc", "Currency_Symbol"], "
    bKAeVDbwJAeTAtEBtEBHAjLAkDAwJAdqPAdiIbGbzhVAbgmLAeEAfYAiLBDBmcSDcvxEAdrKA"),
  (["Sk", "Modifier_Symbol"], "
    dQABAcTAGAEADAuBDMNFGBABQeNAOBbxIAiuMABCLCNCNCNBghOBbsvRWJBdZBblOAOBbekKQbiHABAgGAdolJE"),
  (["So", "Other_Symbol"], "
    gKACAEABAblPAkGBeXBhYAKATBjNAtVAoJAfAFBAfCAhZAbPApBCPABCCFUABABAfDHBFBBFDhPBbcYJbbVAbbUAgBbH
    nPJJIccHBBDBBKABBGFBABABAEALBOABBBAcGBJECDBBBBBGBbECBBABbEkIHETCGCdCBbDZbNGcTWKdDcZWhABIBcBI
    eGBjNbSbRcMjVtSbVVBGbMCbFBeAiVFnTBbUZBdKMiFbAPEANBMAVBGBmYBEJbGbLJAQbELbDIAPbFKbMPmHjtOcLbgu
    IcCbhHDKBBAwBCbfjAPeXAbTCsQADAEBNBmBIcFQCCBMDAbVbSclUBwTAesSAdgNHEQbcnIDFAbeuWAfvNjFQqTgAeLc
    IjLKbMCcHFCWBHbDEcIVcNDAhEdIbtXtRcDDbYHBNBBcoUAehWAeZAbbTbREdVMOCOBOBbKXgEcEbCNbREIHBOFfYjQF
    bbZEQDMDeOEdQGLEAPLEcDIJGbNIbDCLEBcKnBMNCMDJFcDHOCKGIHfQBdN"),
  (["Zs", "Space_Separator"], "bGAeXAihJAdpNKbKAbVAfxWA"),
  (["Zl", "Line_Separator"], "meQA"),
  (["Zp", "Paragraph_Separator"], "meRA"),
  (["Cc", "Control", "Cntrl"], "AbFdRbG"),
  (["Cf", "Format"], "
    gRAcaKFWAhKAbXAoUBdCAftJAdaQEbAEbXEBJdghJAjPCgiZAPAnkKPbzqUDhwXHbtkzMAbEdR"),
  (["Co", "Private_Use"], "dgvOjmDcahxOdsyNCdsyN"),
  (["Cn", "Unassigned"], "
    biEBGDHABAUApHAbMBbYBDAcDHbBDGKkKAcIBdXNcHBbXBPAbCBBALEbFACEjDAIBCBWAHABCEBJBCBEHBDCAFBZBDAG
    DCBWAHACACACBBAFDCBDCBGEABGRJDAJADAWAHACAFBKADADBBOEBMGHADAIBCBWAHACAFBJBCBDGDDCAFBSJCAGCDAE
    CCABACCCCDCMDFCDAEBBFBNVENADAXAQBJADAEGCADBBBEBKGWADAXAKAFBJADAEGCFCAEBKADLNADAbZADAGDQBbAAD
    ASCYAJABBHCBDGABAIFKBDLcGDbDbKCABAFAYABAXBFABAHAKBEbFcUAbKDbNAbKAPANbKhQABEBBoNAEBHABAEBbPAE
    BbHAEBHABAEBPAcFAEBcPBbGCbAFdIBGBzTCdLGWIYIULNADACLdQBKFKFbAFdLGbREcSJbFAMDMDBCbQBFKbSDbAFLC
    cKBcNAbDBLFKFOBbFbWcZAgKHcICPCcKEbRBLHbREuOBGBbMBGBIABABABAbFBcBAPAOBGATBDAJAdXAMBbBANCbHObH
    OfKDzQVLUcrSBbGAnLEbTABEBBcEGCNYIHAHAHAHAHAHAHAHAeWbHbAAdLLiGZdCAdIBdZEbRAdQAdIIbWAbriRCcDIn
    KThCHhYBCABAIUcHCKFcEHcSHMFeMKbECdAALDbHAcDIOBKBdZXbCJGBGBGIHAHAcIDeWBKFqnSLXDbXDnbABeCbLHLF
    EbAAFABACACAeVPrDBcCGBbFbQFbZATAEDFAfFBBAhICGBGBGBDCHAHJFBMAbAATACAPBObHeTEDDbTCdKANCBbUbUeZ
    bDCbXObCDbKIbEEbREbEAbLDObPgCBKFbKDbKDbOHcAKMAPAHACALAPAHACCcALlZIWJIXGAbQAJcQGBBAbSACCBBXAc
    UHJbVTACEbHCbBEBcLcEDUBbYACEIADAbDBDDKGJGcMbFbNDMIcCCbDBbBEbAGELHdBcVcCbZMbZGbUHKFbMCbDHChZb
    FAbQADBCPDcCbSHbQVbAbLbCTXIdADbKIcQJBBZGKFcBASHbNIdSAUKSAbVcJHABAEAPALFcHEKFEAIBCBWAHACAFAKB
    CBDBBFBEHBHCFKKABBBAbMAKABBBAEAKACHCbCdOAFbDcUHKgJcCBbMbHcRKKFNScGFKFUbBbBBPDXhCcIdVdFLIBBBI
    ACAbEACBMIKcRIBbUBLbAcUHdFMcVGKgZbINKFJAbTAOJbDCbGBWAOcUHACAbSCBACAJHKFGACAbLACAGGKlXZGRAbPC
    bDdGBObYMbjNdXeHAFKhOdxJdVMbqSJfxREwLkdCcGcoRvXGbFAKDdDAKFbEBGJcSJKAHAVETqPcGhPdNdWcXDcFGRcL
    FKCNjcAHbvQbOKnfQEAHACAlFOBbCDBBNEHpGdkTeDENCJGKBIfvFjQFqUcXbUBXIeMcHjMJbNBhMUcSeRULULdJIZfE
    dHAcTACBBBCBEAMABAHAcNAEBIAHAbCAEAFABCHAnCBlGBbbAOFAPbqLbFFGiEHARBHACAFEcKbGBeHbTCOBKDCmHbFQ
    cGEBrVbQiFbRDBsLHAEACAPAhPBQbOcYDKDCbeEcQcXcJhLEAbBACABBBAKAEABABFBDBABABADACABBBABABABABACA
    BBEAHAEAEABAKAREDAFARbZCkJbSDdWLPBPAPAbLJgScDbDMbSDJGCNGfXblWDRCNCePDdRFMDBOMDcEHKFbOHbEBMDC
    cJnCLOBNCKEcEGPBLFJGfRAdYbnPclfCbFgdUFiOBinQNlbLOxYdqVuWcfXhhZEgfGbomxKBbDdSeXjGdsfNdsyOBdsy
    OB")]

/-- Names of each grouping of categories, and the short names of its parts. -/
def groupings : List (List String × List String) := [
  (["LC", "Cased_Letter"], ["Lu", "Ll", "Lt"]),
  (["L", "Letter"], ["Lu", "Ll", "Lt", "Lm", "Lo"]),
  (["M", "Mark", "Combining_Mark"], ["Mn", "Mc", "Me"]),
  (["N", "Number"], ["Nd", "Nl", "No"]),
  (["P", "Punctuation", "Punct"], ["Pc", "Pd", "Ps", "Pe", "Pi", "Pf", "Po"]),
  (["S", "Symbol"], ["Sm", "Sc", "Sk", "So"]),
  (["Z", "Separator"], ["Zs", "Zl", "Zp"]),
  (["C", "Other"], ["Cc", "Cf", "Co", "Cn"])]

/-- Members of a single category, by its short name. -/
def members (short : String) : CharSet :=
  match tables.find? (fun t => t.1.head? = some short) with
  | some t => .ofTable t.2
  | none => .empty

/-- Members of several categories together. -/
def membersOf (shorts : List String) : CharSet := .unions (shorts.map members)

end NamedCapture.Category
