import MessageHarvest.Call.Scan
import MessageHarvest.Call.Site
import MessageHarvest.Log.Record
import MessageHarvest.Script.Module

/-!
The messages of one source text. A script that cannot be parsed is scanned for the text of calls
instead, and the log tells why.
-/

namespace MessageHarvest

inductive Strategy where
  | ast
  | fallback
  deriving Repr, DecidableEq

def Strategy.name : Strategy → Text
  | .ast => "ast".toList
  | .fallback => "fallback".toList

structure SourceHarvest where
  file : Text
  strategy : Strategy
  records : List MessageRecord
  deriving Repr, DecidableEq

namespace Script.Report

def display (report : Script.Report) : Text :=
  "ParseError \x7b message: ".toList ++ Text.quote report.fault.message ++ ", line: ".toList ++
    Text.ofNat report.line ++ " \x7d".toList

end Script.Report

def parseLog (file : Text) (report : Script.Report) : Log := [
  { level := .warn
    message := "Error parsing \x7bfile\x7d: \x7bmessage\x7d (at line \x7bline\x7d).".toList
    context := [
      ("file".toList, file), ("message".toList, report.fault.message),
      ("line".toList, Text.ofNat report.line), ("exception".toList, report.display)] },
  { level := .warn
    message := "Falling back to regex matching to extract translations.".toList
    context := [] }]

def parsedSites (config : Config) (source file : Text) :
    Except Script.Report (List MessageRecord) :=
  (Call.sites config file) <$> Script.parseModule source

def harvestSource (config : Config) (source file : Text) : SourceHarvest × Log :=
  match parsedSites config source file with
  | .ok records => (⟨file, .ast, records⟩, [])
  | .error report =>
      (⟨file, .fallback, Call.records config source file⟩, parseLog file report)

end MessageHarvest
