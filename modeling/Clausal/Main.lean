import Clausal.CommandLine

/-!
# The program

The command line as a program: it opens the file, looks at the clock and prints, and leaves everything
else to the modules below.
-/

namespace Clausal.Program

open CommandLine

/-- The seconds that the clock shows. -/
def now : IO Number := do
  return .real (Binary64.ofQuotient (← IO.monoNanosNow) 1000000000)

/-- The lines of the file at a path. -/
def open? (path : String) : IO (Except FileFault (Text.LineSource FileFault)) := do
  try
    let bytes ← IO.FS.readBinFile path
    return .ok (Files.linesOf path (.plain bytes.toList))
  catch
    | .noFileOrDirectory .. => return .error (.notFound path)
    | .inappropriateType .. => return .error (.isADirectory path)
    | other => throw other

/-- Runs the rounds of a search, each at the time that the clock shows. -/
partial def rounds (budget : Budget) (deadline : Option Number) (run : Budget.Run) :
    IO Budget.Finished := do
  let timed := { run with clock := .showing (← now) }
  match budget.round deadline timed with
  | .running next => rounds budget deadline next
  | .finished done => return done

/-- Lets a variant search. -/
def searchNow (settings : Settings) (problem : Dimacs.Problem) (variant : Given Variant) :
    IO (Except Fault VariantRun) := do
  match settings.prepare problem variant with
  | .error fault => return .error fault
  | .ok (solver, budget) =>
    let started ← now
    match (budget.deadline (.showing started)).1 with
    | .error fault => return .error fault
    | .ok limit =>
      let finished ← rounds budget limit ⟨solver, .showing started, []⟩
      return VariantRun.ofFinished started (← now) finished

/-- Carries out a command line. -/
def shownNow (words : List String) : IO Shown := do
  match readArguments words with
  | .error stop => return stop.shown
  | .ok settings =>
    let read := Dimacs.readSource (← open? settings.file)
    let results ← match read with
      | .error _ => pure []
      | .ok problem => settings.variants.mapM (searchNow settings problem)
    return shownRun settings (reportRun settings read fun _ => results)

end Clausal.Program

open Clausal.Program in
/-- Carries out the command line and exits with its status. -/
def main (words : List String) : IO UInt32 := do
  let shown ← shownNow words
  for line in shown.output do
    IO.println line
  for line in shown.errors do
    IO.eprintln line
  match shown.status with
  | .ok status => return UInt32.ofNat status
  | .error escape =>
    IO.eprintln (escape.message)
    return 1
