/-
NamedCapture/Unicode/Width.lean

How many columns of a terminal a character takes: none for marks and for
characters that are not shown, two for wide characters, else one.
-/
import NamedCapture.Unicode.CharSet

namespace NamedCapture

/-- Characters that take two columns. -/
def CharSet.wide : CharSet := .ofTable "
    glKdRgsOBNBhIDDACAuBBVBbAHQLbRAKFDANAIBRBFBIAFAVAHBBAEACAHAEBbCAbJABAECBAcJCYAOAbhBBbZAEAbfE
    ZBdKMiFbAcFGOCdHEdWFbQBbYBbPBdHJbVBbNIbrgUDcCbtHbCyTqnRmqMtRbeEJWbIBSBDfTdReXGbqkNDbCjbZIbvP
    bPJnfRDBGBBBlEPAbDCCAODIpFmdGdIJWkvDAhUAhIACJdXCNbREIHBOFfYbGMIBcRBVMbQEEMQDADcSBABhECcKNDBX
    SAbABNAdIdGbWcRGADCCCEDLBHIiTLEAkXbUBJBhCeIMDJFcDHOCKGIbxNdsyNCdsyN"

/-- Characters that take no column of their own. -/
def CharSet.zeroWidth : CharSet := .ofTable "
    gRAwWeHkPGkDbSBABBBBBAcJAKKBAbUUQAdXGCFCBBDbHABAbEbAdNKcGIJAYDBIBCBEbRCcABFIbQcEcDABAEHEADGK
    BbDAcGABACDIAJAKBbAACBcFAEBEBCCDAbEBDALBcFAEEBBEAUBWFBAcGABBBDIAHCKBbEAcHABAMAJAbOADAcDABCFC
    BDHBLBbDAcGACBBADCBDHBLBbCBcFBBACDIBIAKBbDAcUAEACCBAIAdDACGMHdUACILGcVBbBABABAcDNBEBBFKBbJJA
    dYDBFBBCBZBECQDNACBGAPAhMgDnLCbkKDbCCbDBbEBcMBBGIACKJAbTEeNBbIAeOCEBJAGCiLBCAcGABGBABACHGJCA
    bWbEbXDbWJECbMIMBbGDCFcEABBDABEcEHCBfWCBMBGEAGADBhQcLuDEbAEbXPdSbGeoCCfLAdSbFvIFeBBhTAbsiKDB
    JbGBdCBkMADAEAZBFAfVBbARIAEAbMHZKBAbSCbWACDCBCAbKAcPFCBCBMAIAbVAbZABCCBFBBAbQBIAjEACAEAqoWWE
    bWnhYAbcJPQPhZAgCCdBItWAiSAfTEcmGCBBFDbOCEAgJBwBDcNEmFBdBDcSKbXDeTAcCObPACBKCbXDCBHAcJCbKEBH
    cKAMBcAIBABBFDCAdRCCDGACAgBADHVBcFBBABAMAJAOGDEcPACFBACABCECBAOBdHHCCBAXAdDACFBACABBBBjBACDG
    BBBbBBdHHCABBeCABACHdXABACDBEjZIBBjLAKEBABAfODCBEAbGJbOFBEIAJFCCbOSBBpQGBFBAdEVCGBBBBeSFDABB
    BIcUBDABAnJBLCbZEFCXAhxTAGOqyYLDCdsAEcHGboIAcLDdDALBbdaXBBDgyUbTCWuWEDVCGbEDfSCcyDcCEbXIAOAW
    EBOcaIGBQCGBBBEdWAgEGoLAcJDtODjUBbcIGeFGbtbyZgbN"

/-- Columns that a character takes when it is printed as it is. -/
def columns (c : Char) : Nat :=
  if c.toNat < 0x7F then 1
  else if CharSet.zeroWidth.contains c then 0
  else if CharSet.wide.contains c then 2
  else if c = '\u17A4' then 2
  else if c = '\u17D8' then 3
  else 1

end NamedCapture
