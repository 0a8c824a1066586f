import ConnectorSync.Launch.PodScript
import ConnectorSync.Proofs.Text.ShellWords

/-!
# The arguments of a connector, as its shell has them

The main container's script hands the connector its arguments as the positional parameters of the
shell. The shell reads them back from one line of the script, whatever characters they are made of.
-/

namespace ConnectorSync.Launch

open Text Shell

theorem clean_parametersLine {args : List String} (clean : ∀ arg ∈ args, Clean arg) :
    Clean (parametersLine args) :=
  clean_append.2 ⟨by decide, clean_words clean⟩

theorem finish_parametersLine {args : List String} (clean : ∀ arg ∈ args, Clean arg)
    (tokens : List Token) :
    ((Reader.ready tokens).read (parametersLine args)).finish =
      .ready (tokens ++ setCommand args) := by
  have command : (Reader.ready tokens).read "set -- " =
      .ready (tokens ++ [literal "set"] ++ [literal "--"]) := rfl
  rw [parametersLine, Reader.read_append (by decide), command, Reader.finish_words clean]
  simp [setCommand]

theorem tokens?_parametersLine {args : List String} (clean : ∀ arg ∈ args, Clean arg) :
    tokens? (parametersLine args) = some (setCommand args) := by
  have ended := finish_parametersLine clean []
  have bare := Reader.mode_of_finish ended
  have ended : (({} : Reader).read (parametersLine args)).finish = .ready (setCommand args) := ended
  have bare : (({} : Reader).read (parametersLine args)).mode = .bare := bare
  simp only [tokens?, bare, true_or, if_true, ended]
  rfl

/-- The arguments have one line of the script to themselves. -/
theorem mainScript_lines (d : Descriptor) (background : List String) :
    ∃ before after, ∀ args, mainScript { d with args } background =
      scriptOf (before ++ parametersLine args :: after) := by
  have around (first : List String) (start : String) (rest : List String) :
      ∃ before after, ∀ args, scriptOf (first ++ start :: parametersLine args :: rest) =
        scriptOf (before ++ parametersLine args :: after) :=
    ⟨first ++ [start], rest, fun args => congrArg scriptOf (List.append_cons ..)⟩
  cases stdin : d.step.usesStdin with
  | false =>
    simp only [mainScript, stdin, Bool.false_eq_true, if_false]
    exact around ..
  | true =>
    simp only [mainScript, stdin, if_true]
    exact around ..

/-- The shell takes the line of the arguments for one command, which sets them as its positional
parameters, and goes on with what follows. -/
theorem parameters_read_back (d : Descriptor) (background : List String)
    (clean : ∀ arg ∈ d.args, Clean arg) :
    (∃ before after, ∀ args, mainScript { d with args } background =
      scriptOf (before ++ parametersLine args :: after)) ∧
    (tokens? (parametersLine d.args)).bind parameters? = some d.args ∧
    ∀ tokens rest, (Reader.ready tokens).read (parametersLine d.args ++ "\n" ++ rest) =
      (Reader.ready (tokens ++ setCommand d.args ++ [.operator '\n'])).read rest := by
  refine ⟨mainScript_lines d background, ?_, fun tokens rest => ?_⟩
  · rw [tokens?_parametersLine clean]
    exact parameters?_setCommand d.args
  · have line := clean_parametersLine clean
    rw [Reader.read_append (clean_append.2 ⟨line, by decide⟩), Reader.read_append line,
      Reader.read_newline (finish_parametersLine clean tokens)]

def quarrelsome : Descriptor :=
  { jobId := "7", attempt := 1, image := "airbyte/source-postgres:3.6.0", step := .read,
    args := ["read", "it's", "", "two words\n$(reboot) # '", "\\'", "--"] }

theorem parameters_read_back_quarrelsome :
    (∀ arg ∈ quarrelsome.args, Clean arg) ∧
    (∃ before after, ∀ args, mainScript { quarrelsome with args } [] =
      scriptOf (before ++ parametersLine args :: after)) ∧
    (tokens? (parametersLine quarrelsome.args)).bind parameters? = some quarrelsome.args ∧
    ∀ tokens rest, (Reader.ready tokens).read (parametersLine quarrelsome.args ++ "\n" ++ rest) =
      (Reader.ready (tokens ++ setCommand quarrelsome.args ++ [.operator '\n'])).read rest := by
  have clean : ∀ arg ∈ quarrelsome.args, Clean arg := by decide
  exact ⟨clean, parameters_read_back quarrelsome [] clean⟩

end ConnectorSync.Launch
