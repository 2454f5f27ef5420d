import GroupSearch.Command.Run
import GroupSearch.Proofs.LongNumbers

namespace GroupSearch

namespace FileTree

variable {t : FileTree} {reader : Yaml.Reader} {path : Path}

end FileTree

namespace Command

open Log.Journal

variable (reader : Yaml.Reader) (w : World) (settings : Settings)

/-- The file that an action is to be logged to cannot be opened. -/
def LogFault (action : String) (fault : FileError) : Prop :=
  settings.log.toFile = true ∧ (openFile w.clock (setup settings action) action w.files).1 =
    .error fault

/-- All the ways in which a command ends: a log file that cannot be opened gets out, the action is
given up for a defect that is logged, or it shows something. -/
structure Ends (action failure : String) (givesUp : Prop) (shows : Bool × String → Prop)
    (r : Except SetupError Report) : Prop where
  escapes (e : SetupError) :
    r = .error e ↔ ∃ fault, LogFault w settings action fault ∧ e = .file fault
  aborts : (∃ journal, r = .ok ⟨none, journal⟩) ↔
    (∀ fault, ¬ LogFault w settings action fault) ∧ givesUp
  logs {journal : Log.Journal} : r = .ok ⟨none, journal⟩ → ∃ (d : Defect) (before : Log.Journal),
    journal = before.emit w.clock ⟨.error, s!"{failure}: {d.message}"⟩
  returns (shown : Bool × String) : (∃ journal, r = .ok ⟨some shown, journal⟩) ↔
    (∀ fault, ¬ LogFault w settings action fault) ∧ shows shown

variable {reader w settings}

namespace Ends

variable {action failure : String} {givesUp givesUp' : Prop} {shows shows' : Bool × String → Prop}
  {r : Except SetupError Report}

theorem congr (h : Ends w settings action failure givesUp shows r) (hg : givesUp ↔ givesUp')
    (hs : ∀ shown, shows shown ↔ shows' shown) :
    Ends w settings action failure givesUp' shows' r where
  escapes := h.escapes
  aborts := h.aborts.trans (and_congr_right fun _ ↦ hg)
  logs := h.logs
  returns shown := (h.returns shown).trans (and_congr_right fun _ ↦ hs shown)

end Ends

end Command

end GroupSearch
