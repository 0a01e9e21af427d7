import PasswordHashing.Check.EnvFile
import PasswordHashing.Check.Settings
import PasswordHashing.Pool

/-!
One run of the check program: a password is verified against a stored record, or, without one,
hashed and the fresh record verified. The run is a function of the environment, the environment
file and the random bytes, and its report says all that is written and how the run ends.
-/

namespace PasswordHashing.Check

/-- Random bytes: for each number, as many as are asked for. -/
abbrev Entropy := (n : Nat) → Vector UInt8 n

inductive Output where
  | line (text : String)
  | event (event : Event)
  deriving DecidableEq, Repr

inductive Fault where
  | settings (fault : SettingsFault)
  | failure (failure : Failure)
  /-- A record that was just made does not verify. -/
  | unverified
  deriving DecidableEq, Repr

/-- The fault in words, followed by its cause if it has one. -/
def Fault.chain : Fault → List String
  | .settings fault => fault.chain
  | .failure f => [f.message]
  | .unverified => ["freshly hashed record failed to verify"]

inductive Ending where
  | success
  | mismatch
  | failed (fault : Fault)
  deriving DecidableEq, Repr

structure Report where
  output : List Output
  ending : Ending
  deriving DecidableEq, Repr

namespace Report

def lines (r : Report) : List String :=
  r.output.filterMap fun
    | .line text => some text
    | .event _ => none

def events (r : Report) : List Event :=
  r.output.filterMap fun
    | .line _ => none
    | .event event => some event

def exitCode (r : Report) : Nat :=
  match r.ending with
  | .success => 0
  | _ => 1

/-- What a run that fails says of it: the fault, and under a heading of its own each cause. -/
def complaint (r : Report) : String :=
  match r.ending with
  | .failed fault =>
      match fault.chain with
      | [] => ""
      | [message] => "Error: " ++ message ++ "\n"
      | message :: causes =>
          "Error: " ++ message ++ "\n\nCaused by:\n" ++
            String.join (causes.map fun cause => "    " ++ cause ++ "\n")
  | _ => ""

/-- The report with earlier output before its own. -/
def after (r : Report) (output : List Output) : Report :=
  { r with output := output ++ r.output }

end Report

def failed (fault : Fault) : Report :=
  ⟨[], .failed fault⟩

/-- Go on with the answer of an operation, after its events; a failure ends the run. -/
def proceed {α : Type} (result : Logged (Except Failure α)) (next : α → Report) : Report :=
  let report :=
    match result.answer with
    | .ok answer => next answer
    | .error failure => failed (.failure failure)
  report.after (result.events.map .event)

/-- An event of the program's own. -/
def note (message : String) (fields : List (String × String)) : Output :=
  .event ⟨.program, .info, message, fields⟩

/-- Verify a password against a stored record. The verdict is printed; a record that matches but is
outdated is noted. -/
def verifyStored (pool : Pool) (password : Password) (record : Record) : Report :=
  proceed (pool.verify password record) fun isMatch =>
    if isMatch then
      match pool.hasher.needsRehash record with
      | .error failure => failed (.failure failure)
      | .ok outdated =>
          let notes :=
            if outdated then
              [note "Stored record uses outdated parameters, rehash on next login" []]
            else []
          ⟨notes ++ [.line "match"], .success⟩
    else ⟨[.line "no-match"], .mismatch⟩

/-- Make a record, print it, and verify it. -/
def hashFresh (pool : Pool) (password : Password) (entropy : Entropy) : Report :=
  proceed (pool.hash password (entropy _)) fun record =>
    let verified :=
      proceed (pool.verify password record) fun isMatch =>
        ⟨[note "Fresh record re-verified" [("verified", toString isMatch)]],
          if isMatch then .success else .failed .unverified⟩
    verified.after [.line record.text]

/-- A run in an environment to which no file is left to apply. -/
def runIn (env : Environment) (entropy : Entropy) : Report :=
  match Settings.ofVariables env.text with
  | .error fault => failed (.settings fault)
  | .ok settings =>
      proceed (Hasher.ofPolicy settings.policy) fun hasher =>
        let ready :=
          note "Credential hasher ready"
            [("params", hasher.cost.text), ("format", hasher.policy.layout.inspect),
             ("max_in_flight", Decimal.text settings.maxInFlight.toNat)]
        let report :=
          match Pool.ofHasher hasher settings.maxInFlight with
          | .error failure => failed (.failure failure)
          | .ok pool =>
              match settings.record with
              | some record => verifyStored pool settings.password record
              | none => hashFresh pool settings.password entropy
        report.after [ready]

/-- A run: the environment file, if there is one, is applied first. -/
def run (env : Environment) (file : Option (List UInt8)) (entropy : Entropy) : Report :=
  match file with
  | none => runIn env entropy
  | some bytes => runIn (EnvFile.apply env bytes) entropy

end PasswordHashing.Check
