import MessageHarvest.Harvest.Run
import MessageHarvest.Proofs.Text.Utf8

namespace MessageHarvest.Harvester

open Utf8 (decodeLossy asciiText)

/-- Valid bytes are decoded to the text they encode, and ASCII to itself, whatever stands before and
after it. So a file is searched with its ASCII left as it is. -/
theorem harvestFile_decoded :
    (∀ text : Text, decodeLossy (text.flatMap String.utf8EncodeChar) = text) ∧
    ∀ before ascii after : Bytes, ascii ≠ [] → (∀ byte ∈ ascii, byte < 0x80) →
      decodeLossy (before ++ ascii ++ after) =
        decodeLossy before ++ asciiText ascii ++ decodeLossy after ∧
      ∀ (harvester : Harvester) (files : FileSystem) (path : Text),
        files.read path = .ok (before ++ ascii ++ after) →
          harvester.harvestFile files path = .ok (harvestSource harvester.config
            (decodeLossy before ++ asciiText ascii ++ decodeLossy after) path) := by
  refine ⟨fun text => ?_, fun before ascii after some small => ?_⟩
  · rw [← funext Utf8.encodeChar_eq]
    exact Utf8.decodeLossy_encode text
  · have split := Utf8.decodeLossy_append_ascii some small before after
    refine ⟨split, fun harvester files path held => ?_⟩
    unfold harvestFile
    rw [held, ← split]

def lonelyCall : Bytes := Utf8.encode "Translator.trans('a')".toList

/-- A call between the beginning of a character that breaks off and bytes that only go on with one. -/
def brokenScript : FileSystem where
  root := .directory [("a.js".toList, .file ([0xE2, 0x82] ++ lonelyCall ++ [0x82, 0xAC]))]
  working := []

theorem harvestFile_decoded_brokenScript :
    lonelyCall ≠ [] ∧ (∀ byte ∈ lonelyCall, byte < 0x80) ∧
      brokenScript.read "a.js".toList = .ok ([0xE2, 0x82] ++ lonelyCall ++ [0x82, 0xAC]) ∧
      decodeLossy [0xE2, 0x82] = [Utf8.replacement] ∧
      decodeLossy [0x82, 0xAC] = [Utf8.replacement, Utf8.replacement] ∧
      asciiText lonelyCall = "Translator.trans('a')".toList ∧
      ∀ harvester : Harvester, harvester.harvestFile brokenScript "a.js".toList =
        .ok (harvestSource harvester.config (decodeLossy [0xE2, 0x82] ++ asciiText lonelyCall ++
          decodeLossy [0x82, 0xAC]) "a.js".toList) := by
  have some : lonelyCall ≠ [] := List.cons_ne_nil _ _
  have small : ∀ byte ∈ lonelyCall, byte < 0x80 := by decide +kernel
  have held : brokenScript.read "a.js".toList =
      .ok ([0xE2, 0x82] ++ lonelyCall ++ [0x82, 0xAC]) := rfl
  exact ⟨some, small, held, rfl, rfl, rfl, fun harvester =>
    (harvestFile_decoded.2 [0xE2, 0x82] lonelyCall [0x82, 0xAC] some small).2 harvester
      brokenScript "a.js".toList held⟩

end MessageHarvest.Harvester
