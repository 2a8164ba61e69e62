/-
The converter. It asks for the summary of a layout once and keeps it for the
reports that follow, as long as their generation is that of the summary.
-/

import HidBridge.Conversion.Compose

namespace HidBridge

structure Summary where
  generation : Nat
  reportClass : ReportClass
  fieldCount : Nat
  deriving DecidableEq

structure Lookup where
  generation : InterfaceId → Option Nat
  summary : InterfaceId → ReportId → Option Summary

namespace Lookup

def empty : Lookup := { generation := fun _ => none, summary := fun _ _ => none }

def setGeneration (lookup : Lookup) (interfaceId : InterfaceId) (generation : Option Nat) :
    Lookup :=
  { lookup with
    generation := fun asked =>
      if asked = interfaceId then generation else lookup.generation asked }

def setSummary (lookup : Lookup) (interfaceId : InterfaceId) (reportId : ReportId)
    (summary : Option Summary) : Lookup :=
  { lookup with
    summary := fun askedInterface askedReport =>
      if askedInterface = interfaceId ∧ askedReport = reportId then summary
      else lookup.summary askedInterface askedReport }

end Lookup

structure Remembered where
  interfaceId : InterfaceId
  reportId : ReportId
  summary : Summary
  deriving DecidableEq

def Remembered.isFor (entry : Remembered) (interfaceId : InterfaceId) (reportId : ReportId) :
    Bool :=
  entry.interfaceId == interfaceId && entry.reportId == reportId

structure Converter where
  remembered : List Remembered
  sensitivity : Nat
  deriving DecidableEq

namespace Converter

def new (sensitivity : Nat) : Converter := { remembered := [], sensitivity }

def cached? (converter : Converter) (interfaceId : InterfaceId) (reportId : ReportId) :
    Option Summary :=
  (converter.remembered.find? (fun entry => entry.isFor interfaceId reportId)).map
    Remembered.summary

/-- Keeps a summary in place of an older one for the same report. Where every
place is taken by other reports, all of them are forgotten first. -/
def remember (converter : Converter) (entry : Remembered) : Converter :=
  if converter.remembered.any (fun old => old.isFor entry.interfaceId entry.reportId) then
    { converter with
      remembered := converter.remembered.map (fun old =>
        if old.isFor entry.interfaceId entry.reportId then entry else old) }
  else if converter.remembered.length < Limits.summaries then
    { converter with remembered := converter.remembered ++ [entry] }
  else { converter with remembered := [entry] }

def ask (converter : Converter) (lookup : Lookup) (report : Report) :
    Except Fault Summary × Converter :=
  match lookup.summary report.interfaceId report.reportId with
  | none => (.error .unknownReport, converter)
  | some summary =>
    if summary.generation = report.generation then
      (.ok summary, converter.remember ⟨report.interfaceId, report.reportId, summary⟩)
    else (.error .staleReport, converter)

def summarise (converter : Converter) (lookup : Lookup) (report : Report) :
    Except Fault Summary × Converter :=
  match converter.cached? report.interfaceId report.reportId with
  | some summary =>
    if summary.generation = report.generation then (.ok summary, converter)
    else converter.ask lookup report
  | none => converter.ask lookup report

/-- Converts a report, where `none` means that there is nothing to send. A
report read with layouts that are no longer the current ones is refused. -/
def convert (converter : Converter) (lookup : Lookup) (report : Report) :
    Except Fault (Option Output.Message) × Converter :=
  match lookup.generation report.interfaceId with
  | none => (.error .unknownInterface, converter)
  | some current =>
    if current ≠ report.generation then (.error .staleReport, converter)
    else
      match converter.summarise lookup report with
      | (.error fault, next) => (.error fault, next)
      | (.ok summary, next) =>
        if summary.fieldCount ≠ report.samples.length then (.error .fieldCountMismatch, next)
        else (.ok (report.compose converter.sensitivity summary.reportClass), next)

end Converter

end HidBridge
