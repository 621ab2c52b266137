/-
NamedCapture/Unicode/Age.lean

The version of the character set in which a character was assigned.
-/
import NamedCapture.Unicode.CharSet

namespace NamedCapture.Age

/-- Names of each version and the characters it added, oldest version first. -/
def tables : List (List String × String) := [
  (["1.1", "V1_1"], "
    AtHEbDcEdKHbUBJWcRbABSBEADAFGBABTBbRBGDABABABABRNLBcNBLBbOJcACBCBDbBCHCBcDbLCGBbMBAbMJBIMbAF
    EXAOADABZFSNNCcTCEBOBbDCJtZCBcACRCEDYQCBHCBCVBGBADDCABGCBCCJAEBBECUHACFEBCVBGBBBBBBCABEEBCCL
    DBAHOMCBGBABCBVBGBBBECJBCBCCAPAFJRCBHCBCVBGBBCDCHDBCCIBEBBCEKRBBFDCBDDBBABBDBDCDHBCEEDCBDJAP
    LOCBHBCBWBJBEEGBCBDHBJBEJSBBHBCBWBJBEEGBCBDHBHABBEJSBBHBCBWBPEFCCBDJAIBEJfPcFEbCbLBBACBBACAG
    DBGBCBABACBBMBCCEBABFCJCBrIbLKbMEAEdLFcPFdDeoKfYFdLGVCFCbLCFCHBABABABbECcABOBNCFBSCCBIBbUBWb
    JGDbARKbLRbEcEbAbVNdMVjHOABeQfDbKbBKVfIVfTKdBQTGdHfPDBDCbBBbIBABDDABGCGObEDXBNddHcDHABdFEFCd
    PGbNEdPBPdSbCDbJbCbBDbXPLEbUBeOEdUCbEjwBbexXyjQjxTiCGMEGYBEBABBBBBeDbHoAQcLCcBbOLbKDMUEJBSBD
    ECBABfECABdPCdPDFCFCFCCDGBGOC"),
  (["2.0", "V2_0"], "
    ccVQBMUAdmXcTBbGHbAEFBABUDGBAfqNAuHAcatWqnReifYBdsyOBdsyOBdsyOBdsyOBdsyOBdsyOBdsyOBdsyOBdsyO
    BdsyOBdsyOBdsyOBdsyOhlxH"),
  (["2.1", "V2_1"], "mjSAdgoTA"),
  (["3.0", "V3_0"], "
    tIDbEHCReNEbXAKEdJITAeMADABABABAbEAMAcOAMAbQBCDdOBgAAhSCdUBFAPAbQEBNBbDDbAcBbWcfHBBRDXBIBACG
    DAEFBABHSCoJAbRAXCHABCBOCAbWbHBEBBBGDDGZqGGBcKBABDCGBABDCbMBABDCbEBABDCGBABDCGBGBWBbEBABDCGB
    bMBSGbBbJdGMyFJbCDdCfNdODJWOBJGdJIbPcwBAYFdRCbYBdHBcUAdZIkJAeRABbDfIBrPHbHAdIBpIjVccEZBdKMiF
    bALcICDAnPXwMjtDbfeGbsUDRCPBLBCBAbgsCAbvVC"),
  (["3.1", "V3_1"], "
    bmYBdqqCbFbxWbEBDMbAgZbLCbLczdQjLKbMDgXvAdGBcSBBCACBCDBLBABDBBBcMBDCHBGBbBBDBEBADGBmZElDEbXp
    dWcleSbetDuVbpcqTAbEdR"),
  (["3.2", "V3_2"], "
    uYAlQATMeABbCAfRBcFBCBCBbXPnMBmJAdnHBchJMBGLWJTMMBCBBdiXAGEEAHENAcKBbYGdEOgMLjINeUAbEbZkYTfV
    JdKHWBdMLCJiONdMbBEPjWtRbzNCdJBIBdQAjGPdDOdDObrdIBQAMADAbgjAcGbjDADPcBBbSAjBB"),
  (["4.0", "V4_0"], "
    uZASCePBcLQdCHFCfVEtWDJIcMCfTBPAbTCbDCqUAhCAcPABAfGAdGCNAcPAcHAeZHhLBefNASJkCbCDLELEADbPCEeD
    bFbdOeDbcPBiWAzJBlQAkQBeMHOBbrANcrNBbXAbRBdADgLDdVBbFAjtOcLcoqVAcVBqXLBZBSBBBOCNbIeSFCEbSDIw
    EbDBAfEBbMdBCJbgWFCABbRBBDACAcyuIdInYAbtkdAjF"),
  (["4.1", "V4_1"], "
    vVKkSEgDDjMBgOAbICcPASAcGFjHbDuHAdCAsTAbVAbmNBlJBBAkGAcLAcLAbNAbFAbFAbFAPAbNAXBbFZcgCbPGZGJE
    BbGbBCBbgMdJzHBBGbXEbDDcBAdCAPAyUKwAAdXBSKFPkKGbgHFjCbUBbUbHeCObSKcBJAQWJGBGBGBGBGBGBGBGbHXE
    BbjUPgSAbpiTVctOWiZbRbfeAeBbfQJbfAcWuNbJENciSDBBFHBCBbAECEIIIcxpVcRbrAB"),
  (["5.0", "V5_0"], "
    wGNlNCmZAbQFQDgKAtXcGoUBBBbhIBNBfiJcXEbSwLGbZBbcUDdPBcBAxBLbbMAkQDbgJGFDmEMHDbulJDFBlAcDbkoM
    ZFAirGbhUfPdUNDcogIRbqUB"),
  (["5.1", "V5_1"], "
    bhWDCBdJAhBAfKPiSELEbGElQRtDBiOAbJAhYAbDBeEAeEAbABIBUHhHAGAbDBMFDGsXBdTADCcZAFACAHCEFbAcLEBd
    bEAbbXbQDLcScDDODbYmTbBgZDdMFnSAfJAdQAcBDbyAAVJDDkEAbFDbfFEEbODEkUCBCEFnQbFYDCSbdKAgGTbppOHb
    zOlNUbFCRIbBfBECeCeGEeYcQJLbMdFLAgEcCJNCJCDbfsUCbhPLcAbTfAbCDbWckDZFAcxsJAlrQbREdV"),
  (["5.2", "V5_2"], "
    byQBbcCbTCOhLAcZAGAbJBeYAcfPDhLDhGEcQEdEFtSAyGIvOcRgYBbUAcRcKBbCCKGJGNvAbIkGAbaUCfVCcCAxIAba
    RBbDCEJBSBAEXdJAbnHEkSANBeDGmHAboCLbplSHbxKbVqAdJmAJgKbBdWbCDcZBKEBeYbBEcOYEiQbTCJqoKWEbWnbB
    CfgCVBIhEBmMbFeYcBDbCCbAFHeYcUuPbEtTcNlvQbpEctnDKFbECALABACADADEIAHAZABBCAKDCAeHAPbHOIcqlJgd
    O"),
  (["6.0", "V6_0"], "
    bySBjOAcKAsMbBCAiLBTAGBbBEtMFqRAQATAwBDcVBbiOBdeNbZIDtOAzOHbCAbfJKbcCATABDbDAEBbCAbJABAECJBc
    ACYAOAOBcdKAOAbpOCbseNBlNBBBOJdCAbdUFCFCFJGBGbemTPhrIcZEbDbheEvWbalBBymGOCNCOBOdCABKBABBBCBC
    FHBGBJGIBACBBJEBBJcXZBBbVIVBgSbGPFBcRDTMbKBEVQPcKBABgZBDDcJSXfREBPBCBABABABCBFCDBACDBLEKbWcR
    cGeLcuqMiN"),
  (["6.1", "V6_1"], "
    ccTAeMAzRABKcDbAtDAbmRBsTAFAbVCebBCMFjWHbRDecQABAbyQBbZAFAcEBhUJbraEAcnNHbJAjIBWAcZBbcOWbdzZ
    BfuUcDGBcrOYHJGcABNcIcUHJbtUcDIJbhkOcQLbUQQbvwIDBbABBBACABJBDBABAGAEABABABCBBBACABABABABABBB
    ACDBGBDBDBABJBQFCBEBQcAByIBblSDhGAQADABABABADAGBEABBEA"),
  (["6.2", "V6_2"], "mkGA"),
  (["6.3", "V6_3"], "ciEAjyVD"),
  (["7.0", "V7_0"], "
    biLAqIHdPBeOAzRALFcYAeQAHAyPAbZAcYAeXAiUJdkRHvCBpLOvXBjDObbHCbfQGbdTAbqICKZCbFCbHDLBHxUGbtoV
    FjMLLCCBcRAsUbEeVDgUbVEBbfiVGbhDBTAmHbBbJAbWbQoZbNIbZLAfOlYJVKHjOcKIIrWbFbGbMELfHRHDMGbvJAiA
    bMdIAMAGTLRBbQeKcGFJHCBHCBCVBGBBBECICBCCJAFGCGDEkHcTIJgKcBCRcCcQLJwKdEMArGcEdfIbPhULFAbalFbE
    BJEBdSbDCFKcRKJBGBUFSbemAeCFMDIHJCHqkYhOCPczWAbGVVBuMLJAcSAWLbLAFDFLRGcTABAhAAEBcLBEGbDRBbOB
    dHcSBNbVcSJQMDDfKdGbRLEcDIJGbNIbD"),
  (["8.0", "V8_0"], "
    dhRBbUAuNAnOAkAAcmVACFevOAhVBdyEDbrwVIcoUAjGAbIFmMBxMDMdBbffQBebGSBBFEhGBCPCbTyQbYNbYHFbvDDO
    EgEGBABDBOBKdIAdBAyJTlEZDOEPerPAiWhNlqQwKcawLKchZzBPEBOjhDCdABdBEbKHjVAcXEjJBfJAwDIdZEcHAcuc
    LinP"),
  (["9.0", "V9_0"], "
    dhUHWObjPAhYAECBGXCfrZIoGAchBDdxCBbtzLAkSAbhqDBbeVbJEbJfaOArHdLBABAtUMccXIBbSBNKbCDbFCVBNbfm
    VAbFjbOTbdAbgfLGBQCGBBBEdiZcWFJEBddBRfMAbfYAbPAlOBbHCvAFBHIACLBLEObMM"),
  (["10.0", "V10_0"], "
    deMKpLBjSFtSAcGBfyWAjUDbbHAbfZAczAAyCEbcMAbpxNUblpICiqQcTIbZCWBExHGBBBbRDABBBIIJbfgPAyhKkYdD
    pFyaEFbrPBbIBtZLTAIHBBZASMbMFcEWdcpDlbK"),
  (["11.0", "V11_0"], "
    caYAbNAdYAuFCiDAlMAePApHAeXAenRAboHbQCCfrMCWYEOwPEbcIAbpyHEcyHAIBmMBbkvCBSAbaTbNIJrMbNIbPoHA
    eOCtGAlEAbaXAiVcHxLAbbEFBBBbKBBBFHJlYYbeaPdMjpIEbcjUTeWGjlWcPbsCAceZAiLDoICbCECDDABDYKNJHBbK
    YdSN"),
  (["12.0", "V12_0"], "
    esTAuGACACABFEAHAHBCANAfkHAfpUAcBAwTAbtzMFCEbjRBbmbGWbrKAxCAbcPHCbTCKgDBbzMbXNAhqUIwjKFEAbVI
    dMBjcWFprCCRDsaQbSDNCJEBoEcFFAcjZAbkNcIbpEAcbGAbKAiVLlDCbVAbXAJAbPFDBKFDHCCbWdFbCDECFCNF"),
  (["12.1", "V12_1"], "tiDA"),
  (["13.0", "V13_0"], "
    diCJzDAqOAeUAfaJBgjUAbaUCbhOEkpIJbfdGMcySDbQBcBAbfVDbgqQAewXbPBCCBjUbBoPAfEBzAAFBbtMGCACHBBB
    bDBBCLJJckKAbejRALBkfXsObQIblwUCdPCcJAbyUBbJBqTBdMAdXAEBbQBGCbDAgMAODPSHGJCNGbPfQBcCbLJcmsJG
    bhtQhhY"),
  (["14.0", "V14_0"], "
    ciFAwWbEBBGHVASKbhPAbGAeXAdwHAHAJAjFAbaNNeVAbWByLAbbHAeiOAbVAtFKbraTCcyIBOBBABEYCbftDAoRPeXA
    bUBcvGKBOBGBBBKBOBGBBrJFBbPBIcxXZiWFcYAcgSAfEGbhPPhwYdUwdXdABJbaeWDBGBBlCDliBbTCWJeLvDBeyVbE
    bhXbEbzDGBDBBBOfqKCkMApCAdEAgSBbSDKDICRCGHIGcncPBgeVD"),
  (["15.0", "V15_0"], "
    exNAsGAdtaKCbfZCdiCJbnAQBbODbBhxDAJbCbvhKAbIAmrATerHFkBcJbHAbpWbPguCAfVCEEdLAzRCPBbKCLCBAOBK
    BMAOBcthOAbiwSgfF"),
  (["15.1", "V15_1"], "seMDtBAkeiQxX"),
  (["16.0", "V16_0"], "
    dgPAhcGBbVAkFBcwYCffEBbsqVCMCbjoLbZctWbLDbCIBlUCcDAbsLJBACABbLBJBACABDBJBBIBbcVTbvWbHOJbhGAh
    yZfxQkzTcFeoKcFlyJAxwIjPGqTitObQEAhcCJEBrNAFAbUAHAVACAJAiRbK")]

end NamedCapture.Age
