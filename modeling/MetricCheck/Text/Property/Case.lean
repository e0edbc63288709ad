-- Characters that differ in nothing but case: those with the same simple case folding
-- in Unicode 16.0.
import MetricCheck.Text.CharSet

namespace MetricCheck.Text

/-- The table of the groups of characters with the same folding, in order of their
first code points. For each group it tells how far its first code point is from that
of the group before, how many more than two there are, and how many code points are
left out before each of the others. -/
def caseTable : String :=
  "cNAbFBAbFBAbFBAbFBAbFBAbFBAbFBAbFBAbFBAbFBBbFmkKBAbFBAbFBAbFBAbFBAbFBAbFBAbFBBbFkHBAbFBAb" ++
  "FBAbFBAbFBAbFBAbFBAbFdNBbcObFLAbFBAbFBAbFBAbFBAbFBBbFmfTBAbFBAbFBAbFBAbFBAbFBAbFBAbFBAbFBA" ++
  "bFBAbFBAbFBAbFBAbFBAbFBAbFBAbFBAbFCAbFBAbFBAbFBAbFBAbFBAbFBAbFBAlgWbGAeQBAACAACAACAACAACAA" ++
  "CAACAACAACAACAACAACAACAACAACAACAACAACAACAACAACAACAACAAEAACAACAADAACAACAACAACAACAACAACAADAA" ++
  "CAACAACAACAACAACAACAACAACAACAACAACAACAACAACAACAACAACAACAACAACAACAADAACAACAADAhMBAiBBAACAAC" ++
  "AhXBAACAhWBAhWBAADAdABAhTBAhUBAACAhWBAhYBAdSBAiCBAiABAACAgGBAckyYBAiCBAiEBAeZBAiFBAACAACAA" ++
  "CAiJBAACAiJDAACAiJBAACAiIBAiIBAACAACAiKBAAEAADAcDFBAADBAADBAADAACAACAACAACAACAACAACAADAACA" ++
  "ACAACAACAACAACAACAACAADBAADAAEAACAACAACAACAACAACAACAACAACAACAACAACAACAACAACAACAACAACAACAAE" ++
  "AACAACAACAACAACAACAACAACAAIApzEBAADApzBBApzYBApzYBAADAcQBAcSBAACAACAACAACAACApySBApyPBApyR" ++
  "KAckpQFAckpMDAckqOBAckoDBAckpFEAckpFBApxEBAckpCFApxKMApwOFAckpEFAckoFWAcknKBAcknHgLCdFbFkp" ++
  "WbRAACAAEAAFAeZBAeZBAeZCAeLHAbLCAbKBAbKBAbKCAcLCAcKBAcKBAksGBAbFBBbFbDBAbFBAbFBBbFcLBAbFBA" ++
  "bFBCbFYbICBbFcBBAbFCAbFBAbFBAbFBBbFVBBbFbVCBbEABAbFBAbFBBbFOBAbFBAbFBBbFldCBAbFBAbFFAkrQbF" ++
  "AHJAACAACAACAACAACAACAACAACAACAACAACAAEAGFAADAAGAdBBAdBBAdBBAdBBAdBBAdBBAdBBAdBBAdBBAdBBAd" ++
  "BBAdBBAdBBAdBBAdBBAdBBAbFBAbFBBbFjfHBAbFBBbFjfGBAbFBAbFBAbFBAbFBAbFBAbFBAbFBAbFBAbFBBbFjeX" ++
  "BAbFBAbFBBbFjeVBCbFjeVABAbFBAbFBAbFBAbFBAbFBAbFBAbFBBbFjePBAbFBAbFBAbFBAbFBAbFbXAACBAjdRCA" ++
  "ACAACAACAACAACAACAACAACAACAACAACAACAACAACAAKAACAACAACAACAACAACAACAACAACAACAACAACAACAACAACA" ++
  "ACAACAACAACAACAACAACAACAACAACAACAACAOBAACAACAACAACAACAACAADAACAACAACAACAACAACAACAACAACAACA" ++
  "ACAACAACAACAACAACAACAACAACAACAACAACAACAACAACAACAACAACAACAACAACAACAACAACAACAACAACAACAACAACA" ++
  "ACAACAACAACAACAACAACAADAbVBAbVBAbVBAbVBAbVBAbVBAbVBAbVBAbVBAbVBAbVBAbVBAbVBAbVBAbVBAbVBAbV" ++
  "BAbVBAbVBAbVBAbVBAbVBAbVBAbVBAbVBAbVBAbVBAbVBAbVBAbVBAbVBAbVBAbVBAbVBAbVBAbVBAbVBAbVehEAkt" ++
  "JBAktJBAktJBAktJBAktJBAktJBAktJBAktJBAktJBAktJBAktJBAktJBAktJBAktJBAktJBAktJBAktJBAktJBAkt" ++
  "JBAktJBAktJBAktJBAktJBAktJBAktJBAktJBAktJBAktJBAktJBAktJBAktJBAktJBAktJBAktJBAktJBAktJBAkt" ++
  "JBAktJCAktJGAktJDAelRBAelRBAelRBAelRBAelRBAelRBAelRBAelRBAelRBAelRBAelRBAelRBAelRBAelRBAel" ++
  "RBAelRBAelRBAelRBAelRBAelRBAelRBAelRBAelRBAelRBAelRBAelRBAelRBAelRBAelRBAelRBAelRBAelRBAel" ++
  "RBAelRBAelRBAelRBAelRBAelRBAelRBAelRBAelRBAelRBAelRDAelRBAelRBAelRzXAcfmTBAcfmTBAcfmTBAcfm" ++
  "TBAcfmTBAcfmTBAcfmTBAcfmTBAcfmTBAcfmTBAcfmTBAcfmTBAcfmTBAcfmTBAcfmTBAcfmTBAcfmTBAcfmTBAcfm" ++
  "TBAcfmTBAcfmTBAcfmTBAcfmTBAcfmTBAcfmTBAcfmTBAcfmTBAcfmTBAcfmTBAcfmTBAcfmTBAcfmTBAcfmTBAcfm" ++
  "TBAcfmTBAcfmTBAcfmTBAcfmTBAcfmTBAcfmTBAcfmTBAcfmTBAcfmTBAcfmTBAcfmTBAcfmTBAcfmTBAcfmTBAcfm" ++
  "TBAcfmTBAcfmTBAcfmTBAcfmTBAcfmTBAcfmTBAcfmTBAcfmTBAcfmTBAcfmTBAcfmTBAcfmTBAcfmTBAcfmTBAcfm" ++
  "TBAcfmTBAcfmTBAcfmTBAcfmTBAcfmTBAcfmTBAcfmTBAcfmTBAcfmTBAcfmTBAcfmTBAcfmTBAcfmTBAcfmTBAcfm" ++
  "TBAcfmTBAHBAHBAHBAHBAHBAHdgLBcaeJABAAjGAcagXEAfqRRAcaiXeKAACAACAACAACAACAACAACAACAACAACAAC" ++
  "AACAACAACAACAACAACAACAACAACAACAACAACAACAACAACAACAACAACAACAACAACAACAACAACAACAACAACAACAACAAC" ++
  "AACAACAACAACAACAACAACBAcFCAACAACAACAACAACAACAACAACAACAACAACAACAACAACAACAACAACAACAACAACAACA" ++
  "ACAACAACAACAAMAACAACAACAACAACAACAACAACAACAACAACAACAACAACAACAACAACAACAACAACAACAACAACAACAACA" ++
  "ACAACAACAACAACAACAACAACAACAACAACAACAACAACAACAACAACAACAACAACAACAACAACAHBAHBAHBAHBAHBAHBAHBA" ++
  "HJAHBAHBAHBAHBAHBAHLAHBAHBAHBAHBAHBAHBAHBAHJAHBAHBAHBAHBAHBAHBAHBAHJAHBAHBAHBAHBAHBAHMAHCA" ++
  "HCAHCAHJAHBAHBAHBAHBAHBAHBAHBAHJAcVBAcVBAdHBAdHBAdHBAdHBAdVBAdVBAeXBAeXBAeHBAeHBAeVBAeVDAH" ++
  "BAHBAHBAHBAHBAHBAHBAHJAHBAHBAHBAHBAHBAHBAHBAHJAHBAHBAHBAHBAHBAHBAHBAHJAHBAHCAIQAINAHBAHPAH" ++
  "BAHEAGOAImHAbBbUAPBAPBAPBAPBAPBAPBAPBAPBAPBAPBAPBAPBAPBAPBAPBAPUAAbfNAZBAZBAZBAZBAZBAZBAZB" ++
  "AZBAZBAZBAZBAZBAZBAZBAZBAZBAZBAZBAZBAZBAZBAZBAZBAZBAZBAZcsVAbVBAbVBAbVBAbVBAbVBAbVBAbVBAbV" ++
  "BAbVBAbVBAbVBAbVBAbVBAbVBAbVBAbVBAbVBAbVBAbVBAbVBAbVBAbVBAbVBAbVBAbVBAbVBAbVBAbVBAbVBAbVBA" ++
  "bVBAbVBAbVBAbVBAbVBAbVBAbVBAbVBAbVBAbVBAbVBAbVBAbVBAbVBAbVBAbVBAbVBAbVbXAAHAACAACAAHAADAAL" ++
  "AACAACAACAACAACAACAACAACAACAACAACAACAACAACAACAACAACAACAACAACAACAACAACAACAACAACAACAACAACAAC" ++
  "AACAACAACAACAACAACAACAACAACAACAACAACAACAACAACAACAACAACAACAAJAACAAFAAbtyKAACAACAACAACAAEAAC" ++
  "AACAACAACAACAACAACAACAACAACAACAACAACAACAACAACAAUAACAACAACAACAACAACAACAACAACAACAACAACAACAAf" ++
  "GAACAACAACAACAACAACAAEAACAACAACAACAACAACAACAACAACAACAACAACAACAACAACAACAACAACAACAACAACAACAA" ++
  "CAACAACAACAACAACAACAACAALAACAADAACAACAACAACAAFAAFAACAACAbVCAACAACAACAACAACAACAACAACAACAALA" ++
  "bjRBAACAACAACAACAACAACAACAAFAACAADAAEAAGAACAACAAbBAAbflWAAboMAbFBAbFBAbFBAbFBAbFBAbFBAbFBA" ++
  "bFBAbFBAbFBAbFBAbFBAbFBAbFBAbFBAbFBAbFBAbFBAbFBAbFBAbFBAbFBAbFBAbFBAbFBAbFbvAAbNBAbNBAbNBA" ++
  "bNBAbNBAbNBAbNBAbNBAbNBAbNBAbNBAbNBAbNBAbNBAbNBAbNBAbNBAbNBAbNBAbNBAbNBAbNBAbNBAbNBAbNBAbN" ++
  "BAbNBAbNBAbNBAbNBAbNBAbNBAbNBAbNBAbNBAbNBAbNBAbNBAbNBAbNfHAbNBAbNBAbNBAbNBAbNBAbNBAbNBAbNB" ++
  "AbNBAbNBAbNBAbNBAbNBAbNBAbNBAbNBAbNBAbNBAbNBAbNBAbNBAbNBAbNBAbNBAbNBAbNBAbNBAbNBAbNBAbNBAb" ++
  "NBAbNBAbNBAbNBAbNBAbNgBAbMBAbMBAbMBAbMBAbMBAbMBAbMBAbMBAbMBAbMBAbMCAbMBAbMBAbMBAbMBAbMBAbM" ++
  "BAbMBAbMBAbMBAbMBAbMBAbMBAbMBAbMBAbMCAbMBAbMBAbMBAbMBAbMBAbMBAbMCAbMBAbMcqDAcLBAcLBAcLBAcL" ++
  "BAcLBAcLBAcLBAcLBAcLBAcLBAcLBAcLBAcLBAcLBAcLBAcLBAcLBAcLBAcLBAcLBAcLBAcLBAcLBAcLBAcLBAcLBA" ++
  "cLBAcLBAcLBAcLBAcLBAcLBAcLBAcLBAcLBAcLBAcLBAcLBAcLBAcLBAcLBAcLBAcLBAcLBAcLBAcLBAcLBAcLBAcL" ++
  "BAcLBAcLgCAbFBAbFBAbFBAbFBAbFBAbFBAbFBAbFBAbFBAbFBAbFBAbFBAbFBAbFBAbFBAbFBAbFBAbFBAbFBAbFB" ++
  "AbFBAbFegPAbFBAbFBAbFBAbFBAbFBAbFBAbFBAbFBAbFBAbFBAbFBAbFBAbFBAbFBAbFBAbFBAbFBAbFBAbFBAbFB" ++
  "AbFBAbFBAbFBAbFBAbFBAbFBAbFBAbFBAbFBAbFBAbFBAbFbgjXAbFBAbFBAbFBAbFBAbFBAbFBAbFBAbFBAbFBAbF" ++
  "BAbFBAbFBAbFBAbFBAbFBAbFBAbFBAbFBAbFBAbFBAbFBAbFBAbFBAbFBAbFBAbFBAbFBAbFBAbFBAbFBAbFBAbFbu" ++
  "lLAbHBAbHBAbHBAbHBAbHBAbHBAbHBAbHBAbHBAbHBAbHBAbHBAbHBAbHBAbHBAbHBAbHBAbHBAbHBAbHBAbHBAbHB" ++
  "AbHBAbHBAbHBAbHBAbHBAbHBAbHBAbHBAbHBAbHBAbHBAbH"

/-- The code points that numbers lead to, one after the other. -/
def codesFrom : (code : Nat) → List Nat → List Nat
  | _, [] => []
  | code, skipped :: rest => (code + skipped + 1) :: codesFrom (code + skipped + 1) rest

/-- The groups of a table. There are no more groups than numbers. -/
def caseGroupsFrom : (steps first : Nat) → List Nat → List (List Nat)
  | steps + 1, first, skipped :: more :: rest =>
    let code := first + skipped
    (code :: codesFrom code (rest.take (more + 1))) ::
      caseGroupsFrom steps code (rest.drop (more + 1))
  | _, _, _ => []

/-- The groups of code points that differ in nothing but case. -/
def caseGroups : List (List Nat) :=
  let numbers := CharSet.readNumbers 0 caseTable.toList
  caseGroupsFrom numbers.length 0 numbers

namespace CharSet

/-- The characters of a set and those that differ from them in nothing but case. -/
def anyCase (s : CharSet) : CharSet :=
  let met := caseGroups.filter fun group => group.any s.containsCode
  .ofRanges (s.ranges ++ met.flatMap fun group => group.map fun code => (code, code))

/-- The same among the letters of ASCII. -/
def anyAsciiCase (s : CharSet) : CharSet :=
  .ofRanges (s.ranges.flatMap fun r =>
    [r, (max r.1 65 + 32, min r.2 90 + 32), (max r.1 97 - 32, min r.2 122 - 32)].filter
      fun r => r.1 ≤ r.2)

end CharSet

end MetricCheck.Text
