import ListenerPorts.Proofs.Printing
import ListenerPorts.Proofs.RunFaults

set_option autoImplicit false

/-! # Executing a request to assign ports

A request ends with the status one and an error on the output, or with the status zero and both
ports on the output. It ends with a fault only for what is not reported as an error: a file that the
operating system refuses, bytes that are no text, a text that its reader fails on, keys that are not
texts, numbers with too many digits, a finder that is not named, and a port that has no form in JSON.
Of the readers nothing is assumed: they may fail as they like.
-/

namespace ListenerPorts

variable {σ α β : Type}

open Run Assignment

theorem run_orMessage {τ : Type} (x : EStateM Fault τ α) (t : τ) :
    (orMessage x).run t = match x.run t with
      | .ok a t' => .ok (.ok a) t'
      | .error f t' => match f.message? with
        | some m => .ok (.error m) t'
        | none => .error f t' := by
  unfold EStateM.run orMessage
  cases x t with
  | ok a t' => rfl
  | error f t' => cases f.message? <;> rfl

namespace CommandLine

/-! ## Errors -/

namespace AssignRequest

def portLines (ports : ServicePorts) : String :=
  "Application port: " ++ ports.application.plain ++ "\n" ++
    ("Admin port: " ++ ports.admin.plain ++ "\n")

/-- The JSON text that shows ports, given the texts of the values in it. -/
def portMembers (application admin dynamic secure : String) : String :=
  "\x7b\n  \"application_port\": " ++ application ++ ",\n  \"admin_port\": " ++ admin ++
    ",\n  \"dynamic\": " ++ dynamic ++ ",\n  \"secure\": " ++ secure ++ "\n\x7d\n"

/-- The security that the JSON text shows. -/
def shownSecurity (s : Settings) : Value := if s.useDynamic.isTrue then s.useSecure else s.useDynamic

/-- How a request shows ports: in two lines, or as JSON. -/
inductive Shows (r : AssignRequest) (s : Settings) (ports : ServicePorts) : String → Prop where
  | lines (hjson : r.json = false) : Shows r s ports (portLines ports)
  | members (hjson : r.json = true) {application admin dynamic secure : String}
      (happlication : Json.printAt 1 ports.application = .ok application)
      (hadmin : Json.printAt 1 ports.admin = .ok admin)
      (hdynamic : Json.printAt 1 s.useDynamic = .ok dynamic)
      (hsecure : Json.printAt 1 (shownSecurity s) = .ok secure) :
      Shows r s ports (portMembers application admin dynamic secure)

end AssignRequest

namespace AssignRequest

/-! ## How a request ends -/

variable {r : AssignRequest} {env : Environment σ} {data : Entries} {c : Configuration}
  {ports : ServicePorts} {f : Fault}

/-- The bytes are those of the file that is found for the request at the path. -/
structure Finds (r : AssignRequest) (env : Environment σ) (path : Path) (bytes : ByteArray) :
    Prop where
  located : env.loader.located env.files r.config = .ok (some path)
  bytes : env.files.bytes path = .ok bytes

/-- The text in the file that is found for the request stands for the mapping. -/
def Reads (r : AssignRequest) (env : Environment σ) (data : Entries) : Prop :=
  ∃ path bytes text, r.Finds env path bytes ∧ Files.decodeText bytes = .ok text ∧
    Configuration.parse env.readers text path = .ok data

/-- The faults that are not reported as errors, with their causes: a path that the operating system
does not let be looked at, a file that it does not let be read, bytes that are no text, a failure of
a reader that is not about the format of the text, keys that are not texts, integers with too many
digits, a finder that is needed and not named, and a static port that has no form in the JSON text
that is asked for. -/
inductive Escapes (r : AssignRequest) (env : Environment σ) : Fault → Prop where
  | unseen (hlook : env.loader.located env.files r.config = .error .fileRefused) :
      Escapes r env .fileRefused
  | locked {path : Path} (hpath : env.loader.located env.files r.config = .ok (some path))
      (hbytes : env.files.bytes path = .error .fileRefused) : Escapes r env .fileRefused
  | notUnicode {path : Path} {bytes : ByteArray} (hfile : r.Finds env path bytes)
      (hbytes : String.fromUTF8? bytes = none) : Escapes r env .notUnicode
  | unreadable {path : Path} {bytes : ByteArray} {text : String} {format : Format} {f : Fault}
      (hfile : r.Finds env path bytes) (htext : Files.decodeText bytes = .ok text)
      (hformat : Format.ofSuffix? (Text.lower path.suffix) = some format)
      (hread : env.readers.reader format text = .error (.failed f))
      (huntold : f.message? = none) : Escapes r env f
  | keys {data : Entries} (hdata : r.Reads env data) (hkeys : ¬ Shape.TextKeyed data) :
      Escapes r env .keysNotTexts
  | digits {data : Entries} (hdata : r.Reads env data)
      (hdigits : ¬ Value.entriesWritable data = true) : Escapes r env .tooManyDigits
  | nameless {data : Entries} {c : Configuration} (hdata : r.Reads env data)
      (hbuilt : Configuration.ofEntries data = .ok c)
      (hdynamic : (r.override c.settings).useDynamic.isTrue = true)
      (hname : (r.override c.settings).finder.isText = false) : Escapes r env .nameNotText
  | notEncodable {data : Entries} {c : Configuration} (hdata : r.Reads env data)
      (hbuilt : Configuration.ofEntries data = .ok c) (hjson : r.json = true)
      (hstatic : (r.override c.settings).useDynamic.isTrue = false) {role : Role}
      (hform : Json.encodable (c.server.firstPort role) = false) : Escapes r env .notEncodable

/-- How a request may end, given what it has left: with the status one and an error, with the status
zero and the ports that a run of the service has assigned, or with a fault that is not reported. -/
inductive Outcome (r : AssignRequest) (env : Environment σ) (es : List Event) :
    Except Fault Nat → Prop where
  | refused {rest : String} (hout : outputText es = "Error: " ++ rest) : Outcome r env es (.ok 1)
  | assigned {data : Entries} {c : Configuration} {w : World σ} {ports : ServicePorts}
      (hdata : r.Reads env data) (hbuilt : Configuration.ofEntries data = .ok c)
      (hports : ends (Service.run (r.override c.settings) (env.machine.host "")) ⟨c.server, w⟩ =
        .ok ports)
      (hout : r.Shows (r.override c.settings) ports (outputText es)) : Outcome r env es (.ok 0)
  | escaped {f : Fault} (h : r.Escapes env f) : Outcome r env es (.error f)

/-- What was left without a print before changes nothing. -/
theorem Outcome.after {es es' : List Event} {res : Except Fault Nat}
    (hes : ∀ e ∈ es, e.IsUnprinted) (h : r.Outcome env es' res) :
    r.Outcome env (es ++ es') res := by
  have hsame : outputText (es ++ es') = outputText es' := by
    rw [outputText_append, outputText_unprinted hes, String.empty_append]
  cases h with
  | refused hout => exact .refused (hsame.trans hout)
  | assigned hdata hbuilt hports hout => exact .assigned hdata hbuilt hports (hsame ▸ hout)
  | escaped h => exact .escaped h

end AssignRequest

end CommandLine

end ListenerPorts
