/-
NamedCapture/Unicode/CaseFold.lean

Simple case folding.  Characters that fold to the same character form a class;
a set is *closed* under folding when it holds all of a class or none of it.
-/
import NamedCapture.Unicode.CharSet

namespace NamedCapture.CaseFold

/-- The classes with at least two members, in ascending order of their least
members.  A class is written as the distance of its least member from that of
the class before, its size less two, and the distances between its members
less one. -/
def table : String := "
    cNAbFBAbFBAbFBAbFBAbFBAbFBAbFBAbFBAbFBAbFBBbFmkKBAbFBAbFBAbFBAbFBAbFBAbFBAbFBBbFkHBAbFBAbFBA
    bFBAbFBAbFBAbFBAbFdNBbcObFLAbFBAbFBAbFBAbFBAbFBBbFmfTBAbFBAbFBAbFBAbFBAbFBAbFBAbFBAbFBAbFBAb
    FBAbFBAbFBAbFBAbFBAbFBAbFBAbFCAbFBAbFBAbFBAbFBAbFBAbFBAbFBAlgWbGAeQBAACAACAACAACAACAACAACAAC
    AACAACAACAACAACAACAACAACAACAACAACAACAACAACAACAAEAACAACAADAACAACAACAACAACAACAACAADAACAACAACAA
    CAACAACAACAACAACAACAACAACAACAACAACAACAACAACAACAACAACAACAADAACAACAADAhMBAiBBAACAACAhXBAACAhWB
    AhWBAADAdABAhTBAhUBAACAhWBAhYBAdSBAiCBAiABAACAgGBAckyYBAiCBAiEBAeZBAiFBAACAACAACAiJBAACAiJDA
    ACAiJBAACAiIBAiIBAACAACAiKBAAEAADAcDFBAADBAADBAADAACAACAACAACAACAACAACAADAACAACAACAACAACAACA
    ACAACAADBAADAAEAACAACAACAACAACAACAACAACAACAACAACAACAACAACAACAACAACAACAACAAEAACAACAACAACAACAA
    CAACAACAAIApzEBAADApzBBApzYBApzYBAADAcQBAcSBAACAACAACAACAACApySBApyPBApyRKAckpQFAckpMDAckqOB
    AckoDBAckpFEAckpFBApxEBAckpCFApxKMApwOFAckpEFAckoFWAcknKBAcknHgLCdFbFkpWbRAACAAEAAFAeZBAeZBA
    eZCAeLHAbLCAbKBAbKBAbKCAcLCAcKBAcKCAbFBBbFbDBAbFBAbFBBbFcLBAbFBAbFBCbFYbICBbFcBBAbFCAbFBAbFB
    AbFBBbFVBBbFbVCBbEABAbFBAbFBBbFOBAbFBAbFBBbFldCBAbFBAbFbKAHJAACAACAACAACAACAACAACAACAACAACAA
    CAAEAGFAADAAGAdBBAdBBAdBBAdBBAdBBAdBBAdBBAdBBAdBBAdBBAdBBAdBBAdBBAdBBAdBBAdBBAbFBAbFBBbFjfHB
    AbFBBbFjfGBAbFBAbFBAbFBAbFBAbFBAbFBAbFBAbFBAbFBBbFjeXBAbFBAbFBBbFjeVBCbFjeVABAbFBAbFBAbFBAbF
    BAbFBAbFBAbFBBbFjePBAbFBAbFBAbFBAbFBAbFbXAACBAjdRCAACAACAACAACAACAACAACAACAACAACAACAACAACAAC
    AAKAACAACAACAACAACAACAACAACAACAACAACAACAACAACAACAACAACAACAACAACAACAACAACAACAACAACAACAOBAACAA
    CAACAACAACAACAADAACAACAACAACAACAACAACAACAACAACAACAACAACAACAACAACAACAACAACAACAACAACAACAACAACA
    ACAACAACAACAACAACAACAACAACAACAACAACAACAACAACAACAACAACAACAACAACAACAADAbVBAbVBAbVBAbVBAbVBAbVB
    AbVBAbVBAbVBAbVBAbVBAbVBAbVBAbVBAbVBAbVBAbVBAbVBAbVBAbVBAbVBAbVBAbVBAbVBAbVBAbVBAbVBAbVBAbVB
    AbVBAbVBAbVBAbVBAbVBAbVBAbVBAbVBAbVehEAktJBAktJBAktJBAktJBAktJBAktJBAktJBAktJBAktJBAktJBAktJ
    BAktJBAktJBAktJBAktJBAktJBAktJBAktJBAktJBAktJBAktJBAktJBAktJBAktJBAktJBAktJBAktJBAktJBAktJBA
    ktJBAktJBAktJBAktJBAktJBAktJBAktJBAktJBAktJCAktJGAktJDAelRBAelRBAelRBAelRBAelRBAelRBAelRBAel
    RBAelRBAelRBAelRBAelRBAelRBAelRBAelRBAelRBAelRBAelRBAelRBAelRBAelRBAelRBAelRBAelRBAelRBAelRB
    AelRBAelRBAelRBAelRBAelRBAelRBAelRBAelRBAelRBAelRBAelRBAelRBAelRBAelRBAelRBAelRBAelRDAelRBAe
    lRBAelRzXAcfmTBAcfmTBAcfmTBAcfmTBAcfmTBAcfmTBAcfmTBAcfmTBAcfmTBAcfmTBAcfmTBAcfmTBAcfmTBAcfmT
    BAcfmTBAcfmTBAcfmTBAcfmTBAcfmTBAcfmTBAcfmTBAcfmTBAcfmTBAcfmTBAcfmTBAcfmTBAcfmTBAcfmTBAcfmTBA
    cfmTBAcfmTBAcfmTBAcfmTBAcfmTBAcfmTBAcfmTBAcfmTBAcfmTBAcfmTBAcfmTBAcfmTBAcfmTBAcfmTBAcfmTBAcf
    mTBAcfmTBAcfmTBAcfmTBAcfmTBAcfmTBAcfmTBAcfmTBAcfmTBAcfmTBAcfmTBAcfmTBAcfmTBAcfmTBAcfmTBAcfmT
    BAcfmTBAcfmTBAcfmTBAcfmTBAcfmTBAcfmTBAcfmTBAcfmTBAcfmTBAcfmTBAcfmTBAcfmTBAcfmTBAcfmTBAcfmTBA
    cfmTBAcfmTBAcfmTBAcfmTBAcfmTBAHBAHBAHBAHBAHBAHdgLBcaeJABAAjGAcagXEAfqRRAcaiXeKAACAACAACAACAA
    CAACAACAACAACAACAACAACAACAACAACAACAACAACAACAACAACAACAACAACAACAACAACAACAACAACAACAACAACAACAACA
    ACAACAACAACAACAACAACAACAACAACAACAACAACBAcFCAACAACAACAACAACAACAACAACAACAACAACAACAACAACAACAACA
    ACAACAACAACAACAACAACAACAACAAMAACAACAACAACAACAACAACAACAACAACAACAACAACAACAACAACAACAACAACAACAAC
    AACAACAACAACAACAACAACAACAACAACAACAACAACAACAACAACAACAACAACAACAACAACAACAACAACAACAACAHBAHBAHBAH
    BAHBAHBAHBAHJAHBAHBAHBAHBAHBAHLAHBAHBAHBAHBAHBAHBAHBAHJAHBAHBAHBAHBAHBAHBAHBAHJAHBAHBAHBAHBA
    HBAHMAHCAHCAHCAHJAHBAHBAHBAHBAHBAHBAHBAHJAcVBAcVBAdHBAdHBAdHBAdHBAdVBAdVBAeXBAeXBAeHBAeHBAeV
    BAeVDAHBAHBAHBAHBAHBAHBAHBAHJAHBAHBAHBAHBAHBAHBAHBAHJAHBAHBAHBAHBAHBAHBAHBAHJAHBAHCAIQAINAHB
    AHPAHBAHEAGOAImHAbBbUAPBAPBAPBAPBAPBAPBAPBAPBAPBAPBAPBAPBAPBAPBAPBAPUAAbfNAZBAZBAZBAZBAZBAZB
    AZBAZBAZBAZBAZBAZBAZBAZBAZBAZBAZBAZBAZBAZBAZBAZBAZBAZBAZBAZcsVAbVBAbVBAbVBAbVBAbVBAbVBAbVBAb
    VBAbVBAbVBAbVBAbVBAbVBAbVBAbVBAbVBAbVBAbVBAbVBAbVBAbVBAbVBAbVBAbVBAbVBAbVBAbVBAbVBAbVBAbVBAb
    VBAbVBAbVBAbVBAbVBAbVBAbVBAbVBAbVBAbVBAbVBAbVBAbVBAbVBAbVBAbVBAbVBAbVbXAAHAACAACAAHAADAALAAC
    AACAACAACAACAACAACAACAACAACAACAACAACAACAACAACAACAACAACAACAACAACAACAACAACAACAACAACAACAACAACAA
    CAACAACAACAACAACAACAACAACAACAACAACAACAACAACAACAACAACAAJAACAAFAAbtyKAACAACAACAACAAEAACAACAACA
    ACAACAACAACAACAACAACAACAACAACAACAACAACAAUAACAACAACAACAACAACAACAACAACAACAACAACAACAAfGAACAACAA
    CAACAACAACAAEAACAACAACAACAACAACAACAACAACAACAACAACAACAACAACAACAACAACAACAACAACAACAACAACAACAACA
    ACAACAACAACAALAACAADAACAACAACAACAAFAAFAACAACAbVCAACAACAACAACAACAACAACAACAACAALAbjRBAACAACAAC
    AACAACAACAACAAFAACAADAAEAAGAACAACAAbBAAbhaIAbFBAbFBAbFBAbFBAbFBAbFBAbFBAbFBAbFBAbFBAbFBAbFBA
    bFBAbFBAbFBAbFBAbFBAbFBAbFBAbFBAbFBAbFBAbFBAbFBAbFBAbFbvAAbNBAbNBAbNBAbNBAbNBAbNBAbNBAbNBAbN
    BAbNBAbNBAbNBAbNBAbNBAbNBAbNBAbNBAbNBAbNBAbNBAbNBAbNBAbNBAbNBAbNBAbNBAbNBAbNBAbNBAbNBAbNBAbN
    BAbNBAbNBAbNBAbNBAbNBAbNBAbNBAbNfHAbNBAbNBAbNBAbNBAbNBAbNBAbNBAbNBAbNBAbNBAbNBAbNBAbNBAbNBAb
    NBAbNBAbNBAbNBAbNBAbNBAbNBAbNBAbNBAbNBAbNBAbNBAbNBAbNBAbNBAbNBAbNBAbNBAbNBAbNBAbNBAbNgBAbMBA
    bMBAbMBAbMBAbMBAbMBAbMBAbMBAbMBAbMBAbMCAbMBAbMBAbMBAbMBAbMBAbMBAbMBAbMBAbMBAbMBAbMBAbMBAbMBA
    bMBAbMCAbMBAbMBAbMBAbMBAbMBAbMBAbMCAbMBAbMcqDAcLBAcLBAcLBAcLBAcLBAcLBAcLBAcLBAcLBAcLBAcLBAcL
    BAcLBAcLBAcLBAcLBAcLBAcLBAcLBAcLBAcLBAcLBAcLBAcLBAcLBAcLBAcLBAcLBAcLBAcLBAcLBAcLBAcLBAcLBAcL
    BAcLBAcLBAcLBAcLBAcLBAcLBAcLBAcLBAcLBAcLBAcLBAcLBAcLBAcLBAcLBAcLgCAbFBAbFBAbFBAbFBAbFBAbFBAb
    FBAbFBAbFBAbFBAbFBAbFBAbFBAbFBAbFBAbFBAbFBAbFBAbFBAbFBAbFBAbFegPAbFBAbFBAbFBAbFBAbFBAbFBAbFB
    AbFBAbFBAbFBAbFBAbFBAbFBAbFBAbFBAbFBAbFBAbFBAbFBAbFBAbFBAbFBAbFBAbFBAbFBAbFBAbFBAbFBAbFBAbFB
    AbFBAbFbgjXAbFBAbFBAbFBAbFBAbFBAbFBAbFBAbFBAbFBAbFBAbFBAbFBAbFBAbFBAbFBAbFBAbFBAbFBAbFBAbFBA
    bFBAbFBAbFBAbFBAbFBAbFBAbFBAbFBAbFBAbFBAbFBAbFbulLAbHBAbHBAbHBAbHBAbHBAbHBAbHBAbHBAbHBAbHBAb
    HBAbHBAbHBAbHBAbHBAbHBAbHBAbHBAbHBAbHBAbHBAbHBAbHBAbHBAbHBAbHBAbHBAbHBAbHBAbHBAbHBAbHBAbHBAb
    H"

/-- The `count` characters after `code`, by their distances less one. -/
def readMembers (code : Nat) : Nat → List Nat → List Nat × List Nat
  | 0, rest => ([], rest)
  | _ + 1, [] => ([], [])
  | count + 1, d :: rest =>
    let (members, rest) := readMembers (code + d + 1) count rest
    ((code + d + 1) :: members, rest)

/-- Reads classes until the numbers or the `fuel`, one unit a class, run out. -/
def readClasses : Nat → Nat → List Nat → List (List Nat)
  | fuel + 1, least, gap :: size :: rest =>
    let (members, rest) := readMembers (least + gap) (size + 1) rest
    ((least + gap) :: members) :: readClasses fuel (least + gap) rest
  | _, _, _ => []

/-- The classes with at least two members. -/
def classes : List (List Nat) :=
  let numbers := CharSet.readNumbers 0 table.toList
  readClasses numbers.length 0 numbers

end NamedCapture.CaseFold

namespace NamedCapture.CharSet

/-- The least set with the given members that is closed under simple case folding. -/
def foldCase (s : CharSet) : CharSet :=
  let touched := CaseFold.classes.filter (·.any s.containsCode)
  .ofRanges (s.ranges ++ touched.flatten.map fun n => ⟨n, n⟩)

end NamedCapture.CharSet
