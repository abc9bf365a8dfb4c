/-
Daybook.Proofs.Command.Asked — what the commands ask.

Every command prints and complains. Whoever allows that allows all that is said
on the way (`Talks`). Most commands do no more to the storage than look at it
(`Looks`): all that show something, and every command while it loads the settings
and before it knows what to write.
-/
import Daybook.Command.Run
import Daybook.Proofs.Library.Loaded

namespace Daybook.Command

open Procedure (Asks)

/-! ## What is said -/

/-- Printing and complaining are allowed. -/
structure Talks (only : Query → Prop) : Prop where
  print (text : String) : only (.print text)
  complain (text : String) : only (.complain text)

namespace Talks

variable {only : Query → Prop} (talks : Talks only)
include talks

theorem print_asks (line : String) : (Command.print line).Asks only :=
  ⟨talks.print _, fun _ => trivial⟩

theorem complain_asks (line : String) : (Command.complain line).Asks only :=
  ⟨talks.complain _, fun _ => trivial⟩

theorem fail_asks (line : String) : (fail line).Asks only :=
  (talks.complain_asks _).bind fun _ => trivial

theorem prints_asks (lines : List String) : (lines.forM Command.print).Asks only :=
  Asks.forM talks.print_asks lines

theorem warnAll_asks (warnings : List Warning) : (warnAll warnings).Asks only :=
  Asks.forM (fun _ => talks.complain_asks _) warnings

theorem printReport_asks (report : Journal.Report) : (printReport report).Asks only := by
  refine (Asks.forIn (fun entry _ => ?_) _ _).bind fun _ => trivial
  obtain ⟨period, done⟩ := entry
  by_cases hdone : done = .created
  · simp only [hdone, if_true]
    exact (talks.print_asks _).bind fun _ => trivial
  · simp only [hdone, if_false]
    exact trivial

end Talks

/-! ## What is looked at -/

/-- The question changes nothing in the storage. -/
def Looks : Query → Prop
  | .storage q => q.looks = true
  | _ => True

theorem looks_talks : Talks Looks := ⟨fun _ => trivial, fun _ => trivial⟩

theorem onStorage_asks {α : Type} {p : Storage.Work α} {only : Query → Prop}
    (h : p.Asks fun q => only (.storage q)) : (onStorage p).Asks only :=
  h.relay fun _ hq => ⟨hq, fun _ => trivial⟩

section Looking

variable (chosen : Option Path) (config : Config)

theorem home_looks : home.Asks Looks := ⟨trivial, fun _ => trivial⟩

theorem standardConfig_looks : standardConfig.Asks Looks := home_looks.bind fun _ => trivial

theorem configPath_looks : (configPath chosen).Asks Looks := by
  cases chosen with
  | some path => exact trivial
  | none => exact home_looks.bind fun _ => ⟨trivial, fun _ => trivial⟩

theorem loadOrStandard_looks (standard : Config) (path : Path) :
    (Config.loadOrStandard standard path).run.Asks fun q => Storage.Query.looks q = true := by
  refine Asks.lift_attempt ⟨rfl, fun _ => trivial⟩ fun (there : Bool) => ?_
  cases there with
  | false => exact trivial
  | true =>
    refine Asks.lift_attempt ⟨rfl, fun _ => trivial⟩ fun (found : Except StorageError String) => ?_
    cases found with
    | error cause => exact trivial
    | ok text =>
      dsimp only
      cases Config.parse standard text <;> exact trivial

theorem loadConfig_looks : (loadConfig chosen).Asks Looks := by
  refine standardConfig_looks.bind fun standard => (configPath_looks chosen).bind fun path => ?_
  refine (onStorage_asks (loadOrStandard_looks standard path)).bind fun loaded => ?_
  cases loaded with
  | ok config => exact trivial
  | error e =>
    exact (looks_talks.complain_asks _).bind fun _ => (looks_talks.complain_asks _).bind
      fun _ => trivial

theorem showToggles_looks : (showToggles config).Asks Looks := by
  refine (looks_talks.print_asks _).bind fun _ => ?_
  refine (Asks.forIn (fun s _ => ?_) _ _).bind fun _ => trivial
  exact (looks_talks.print_asks _).bind fun _ => trivial

theorem showConfig_looks : (showConfig chosen config).Asks Looks := by
  unfold showConfig
  iterate 6 refine (looks_talks.print_asks _).bind fun _ => ?_
  have hend : (do
      print ("Config file: " ++ (← configPath chosen).text)
      print ""
      showToggles config : Work Bool).Asks Looks := by
    refine (configPath_looks chosen).bind fun _ => ?_
    iterate 2 refine (looks_talks.print_asks _).bind fun _ => ?_
    exact showToggles_looks config
  cases config.editor with
  | some editor =>
    iterate 2 refine (looks_talks.print_asks _).bind fun _ => ?_
    cases config.libraryFolder <;> exact (looks_talks.print_asks _).bind fun _ => hend
  | none =>
    refine (looks_talks.print_asks _).bind fun _ => ?_
    cases config.libraryFolder <;> exact (looks_talks.print_asks _).bind fun _ => hend

theorem showStyle_looks : (showStyle config).Asks Looks :=
  (looks_talks.print_asks _).bind fun _ => trivial

theorem showConfigPath_looks : (showConfigPath chosen).Asks Looks :=
  (configPath_looks chosen).bind fun _ => (looks_talks.print_asks _).bind fun _ => trivial

theorem readTemplate_looks (path : Path) :
    (BodyBuilder.readTemplate path).run.Asks fun q => Storage.Query.looks q = true := by
  refine ⟨rfl, fun (there : Bool) => ?_⟩
  cases there with
  | false => exact trivial
  | true =>
    refine ⟨rfl, fun (found : Except StorageError String) => ?_⟩
    cases found <;> exact trivial

theorem loadTemplate_looks (layout : Layout) :
    (BodyBuilder.loadTemplate layout).run.Asks fun q => Storage.Query.looks q = true := by
  refine (readTemplate_looks _).attempt fun found => ?_
  cases found <;> exact trivial

theorem showTemplate_looks : (showTemplate config).Asks Looks := by
  refine (onStorage_asks (readTemplate_looks _)).bind fun found => ?_
  rcases found with e | _ | text
  · exact looks_talks.fail_asks _
  · exact (looks_talks.print_asks _).bind fun _ => (looks_talks.print_asks _).bind fun _ => trivial
  · exact (looks_talks.print_asks _).bind fun _ => (looks_talks.print_asks _).bind fun _ => trivial

theorem showTokens_looks : showTokens.Asks Looks := by
  refine (looks_talks.print_asks _).bind fun _ => ?_
  refine (Asks.forIn (fun token _ => ?_) _ _).bind fun _ => ?_
  · exact (looks_talks.print_asks _).bind fun _ => (looks_talks.print_asks _).bind fun _ => trivial
  · exact (looks_talks.print_asks _).bind fun _ => (looks_talks.print_asks _).bind fun _ => trivial

theorem chosenDate_looks (typed : Option String) : (chosenDate typed).Asks Looks := by
  have hnow : now.Asks Looks := ⟨trivial, fun _ => trivial⟩
  refine hnow.bind fun (now : Calendar.Moment) => ?_
  cases typed <;> exact trivial

theorem expandFor_looks (library : Library) (day : Calendar.Day) {chance : Work Selector}
    (hchance : chance.Asks Looks) : (expandFor config library day chance).Asks Looks := by
  refine (onStorage_asks (loadTemplate_looks _)).bind fun loaded => ?_
  cases loaded with
  | error e => exact trivial
  | ok loaded =>
    obtain ⟨source, warnings⟩ := loaded
    refine (looks_talks.warnAll_asks warnings).bind fun _ => ?_
    cases Template.Registry.builtin.unknownTokens source with
    | error e => exact trivial
    | ok unknown =>
      refine (Asks.forIn (fun name _ => ?_) unknown _).bind fun _ => ?_
      · exact (looks_talks.complain_asks _).bind fun _ => trivial
      · exact hchance.bind fun _ => (looks_talks.warnAll_asks _).bind fun _ => trivial

theorem preview_looks (day : Calendar.Day) {chance : Work Selector} (hchance : chance.Asks Looks) :
    (preview config day chance).Asks Looks := by
  refine (onStorage_asks (Library.loadChosen_looks _)).bind fun loaded => ?_
  cases loaded with
  | error e => exact trivial
  | ok library => exact expandFor_looks config library day hchance

theorem freshSelector_looks : freshSelector.Asks Looks := ⟨trivial, fun _ => trivial⟩

theorem renderTemplate_looks (typed : Option String) :
    (renderTemplate typed config).Asks Looks := by
  refine (chosenDate_looks typed).bind fun chosen => ?_
  cases chosen with
  | error e => exact looks_talks.fail_asks _
  | ok date =>
    refine (preview_looks config date.toDay freshSelector_looks).bind fun text => ?_
    cases text with
    | error e => exact looks_talks.fail_asks _
    | ok text => exact (looks_talks.print_asks _).bind fun _ => trivial

end Looking

/-! ## Tasks that look -/

section Tasks

variable (chosen : Option Path)

theorem withConfig_looks {act : Config → Work Bool} (hact : ∀ config, (act config).Asks Looks) :
    (withConfig chosen act).Asks Looks := by
  refine (loadConfig_looks chosen).bind fun loaded => ?_
  cases loaded with
  | none => exact trivial
  | some config => exact hact config

/-- The task does no more than look at files. -/
def Task.looks : Task → Bool
  | .showConfig | .showToggles | .showStyle | .showConfigPath => true
  | .showTemplate | .showTokens | .renderTemplate _ => true
  | .init .. | .setToggle .. | .setStyle _ | .initTemplate | .editTemplate | .today .. => false

theorem perform_looks {task : Task} (h : task.looks = true) : (task.perform chosen).Asks Looks := by
  cases task with
  | showConfig => exact withConfig_looks chosen (showConfig_looks chosen)
  | showToggles => exact withConfig_looks chosen showToggles_looks
  | showStyle => exact withConfig_looks chosen showStyle_looks
  | showConfigPath => exact showConfigPath_looks chosen
  | showTemplate => exact withConfig_looks chosen showTemplate_looks
  | showTokens => exact withConfig_looks chosen fun _ => showTokens_looks
  | renderTemplate date =>
    exact withConfig_looks chosen fun config => renderTemplate_looks config date
  | init | setToggle | setStyle | initTemplate | editTemplate | today => cases h

end Tasks

end Daybook.Command
