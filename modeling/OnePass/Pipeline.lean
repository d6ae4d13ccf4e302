import OnePass.Procedure

namespace OnePass

/-!
# Declaring pipelines

An open pipeline grows by one stage at a time and keeps two records in step: the
chain that will run, and the queue that says what was declared.  Sealing it with
a terminal fixes the chain and makes the plan; nothing can be added afterwards.
-/

variable {Name : Type} {Base : Name → Type} {ε : Type}
variable {context source element after accumulator output : ValueType Name}

/-- An open pipeline. -/
structure Pipeline
    (Base : Name → Type)
    (ε : Type)
    (context source element : ValueType Name) where
  /-- The identity that the procedure of this pipeline will have. -/
  identity : Nat
  chain : Chain Base ε context source element
  queue : Queue

/-- A pipeline whose chain is complete, and whether it was compiled before. -/
structure Sealed
    (Base : Name → Type)
    (ε : Type)
    (context source element output : ValueType Name) where
  procedure : Fused Base ε context source element output
  compiled : Bool

namespace Pipeline

/-- The pipeline without stages. -/
def new (identity : Nat) : Pipeline Base ε context source source where
  identity := identity
  chain := .source
  queue := .empty

/-- Add a stage with the record of its declaration. -/
def append
    (pipeline : Pipeline Base ε context source element)
    (descriptor : Descriptor)
    (stage : Stage Base ε context element after) :
    Pipeline Base ε context source after where
  identity := pipeline.identity
  chain := pipeline.chain.link stage
  queue := pipeline.queue.push descriptor

/-- Complete the chain with a terminal and, unless it collects, its record. -/
def close
    (pipeline : Pipeline Base ε context source element)
    (descriptor? : Option Descriptor)
    (terminal : Terminal Base ε context element output) :
    Sealed Base ε context source element output :=
  let queue := descriptor?.elim pipeline.queue pipeline.queue.push
  { procedure :=
      { identity := pipeline.identity
        chain := pipeline.chain
        terminal := terminal
        plan := .ofQueue queue }
    compiled := false }

/-! ## Stages -/

/-- Keep the elements that the predicate accepts. -/
def filter
    (pipeline : Pipeline Base ε context source element)
    (predicate : element.Value Base → Nat → Except ε Bool) :
    Pipeline Base ε context source element :=
  pipeline.append (.plain .filter) (.filter (.plain predicate))

/-- Keep the elements that the predicate accepts in the context. -/
def filterWith
    (pipeline : Pipeline Base ε context source element)
    (predicate :
      element.Value Base → Nat → context.Value Base → Except ε Bool) :
    Pipeline Base ε context source element :=
  pipeline.append (.withContext .filter) (.filter (.contextual predicate))

/-- Replace each element by what the mapper makes of it. -/
def map
    (pipeline : Pipeline Base ε context source element)
    (mapper : element.Value Base → Nat → Except ε (after.Value Base)) :
    Pipeline Base ε context source after :=
  pipeline.append (.plain .map) (.map (.plain mapper))

/-- Replace each element by what the mapper makes of it in the context. -/
def mapWith
    (pipeline : Pipeline Base ε context source element)
    (mapper :
      element.Value Base → Nat → context.Value Base →
        Except ε (after.Value Base)) :
    Pipeline Base ε context source after :=
  pipeline.append (.withContext .map) (.map (.contextual mapper))

/-- Call the effect on each element. -/
def forEach
    (pipeline : Pipeline Base ε context source element)
    (effect : element.Value Base → Nat → Except ε Unit) :
    Pipeline Base ε context source element :=
  pipeline.append (.plain .forEach) (.forEach (.plain effect))

/-- Call the effect on each element in the context. -/
def forEachWith
    (pipeline : Pipeline Base ε context source element)
    (effect :
      element.Value Base → Nat → context.Value Base → Except ε Unit) :
    Pipeline Base ε context source element :=
  pipeline.append (.withContext .forEach) (.forEach (.contextual effect))

/-! ## Terminals -/

/-- Fold the elements, starting every run from the seed. -/
def reduce
    (pipeline : Pipeline Base ε context source element)
    (reducer :
      accumulator.Value Base × element.Value Base → Nat →
        Except ε (accumulator.Value Base))
    (seed : Seed ε (accumulator.Value Base)) :
    Sealed Base ε context source element accumulator :=
  pipeline.close (some (.plain .reduce)) (.reduce (.plain reducer) seed)

/-- Fold the elements in the context, starting every run from the seed. -/
def reduceWith
    (pipeline : Pipeline Base ε context source element)
    (reducer :
      accumulator.Value Base × element.Value Base → Nat →
        context.Value Base → Except ε (accumulator.Value Base))
    (seed : Seed ε (accumulator.Value Base)) :
    Sealed Base ε context source element accumulator :=
  pipeline.close (some (.withContext .reduce)) (.reduce (.contextual reducer) seed)

/-- Concatenate the display forms of the elements, separated as given. -/
def joinBy
    (pipeline : Pipeline Base ε context source element)
    (separator : String)
    (display : element.Value Base → String) :
    Sealed Base ε context source element .text :=
  pipeline.close (some (.join separator)) (.join separator display)

/-- Concatenate the display forms of the elements, separated by commas. -/
def join
    (pipeline : Pipeline Base ε context source element)
    (display : element.Value Base → String) :
    Sealed Base ε context source element .text :=
  pipeline.joinBy Terminal.defaultSeparator display

/-- The first element that the predicate accepts. -/
def find
    (pipeline : Pipeline Base ε context source element)
    (predicate : element.Value Base → Nat → Except ε Bool) :
    Sealed Base ε context source element (.optional element) :=
  pipeline.close (some (.plain .find)) (.find (.plain predicate))

/-- The first element that the predicate accepts in the context. -/
def findWith
    (pipeline : Pipeline Base ε context source element)
    (predicate :
      element.Value Base → Nat → context.Value Base → Except ε Bool) :
    Sealed Base ε context source element (.optional element) :=
  pipeline.close (some (.withContext .find)) (.find (.contextual predicate))

/-- The visible index of the first element that the predicate accepts. -/
def findIndex
    (pipeline : Pipeline Base ε context source element)
    (predicate : element.Value Base → Nat → Except ε Bool) :
    Sealed Base ε context source element (.optional .position) :=
  pipeline.close (some (.plain .findIndex)) (.findIndex (.plain predicate))

/-- The visible index of the first element that the predicate accepts in the context. -/
def findIndexWith
    (pipeline : Pipeline Base ε context source element)
    (predicate :
      element.Value Base → Nat → context.Value Base → Except ε Bool) :
    Sealed Base ε context source element (.optional .position) :=
  pipeline.close (some (.withContext .findIndex))
    (.findIndex (.contextual predicate))

/-- Whether the predicate accepts any element. -/
def some
    (pipeline : Pipeline Base ε context source element)
    (predicate : element.Value Base → Nat → Except ε Bool) :
    Sealed Base ε context source element .truth :=
  pipeline.close (Option.some (.plain .some)) (.some (.plain predicate))

/-- Whether the predicate accepts any element in the context. -/
def someWith
    (pipeline : Pipeline Base ε context source element)
    (predicate :
      element.Value Base → Nat → context.Value Base → Except ε Bool) :
    Sealed Base ε context source element .truth :=
  pipeline.close (Option.some (.withContext .some)) (.some (.contextual predicate))

/-- Whether the predicate accepts every element. -/
def every
    (pipeline : Pipeline Base ε context source element)
    (predicate : element.Value Base → Nat → Except ε Bool) :
    Sealed Base ε context source element .truth :=
  pipeline.close (Option.some (.plain .every)) (.every (.plain predicate))

/-- Whether the predicate accepts every element in the context. -/
def everyWith
    (pipeline : Pipeline Base ε context source element)
    (predicate :
      element.Value Base → Nat → context.Value Base → Except ε Bool) :
    Sealed Base ε context source element .truth :=
  pipeline.close (Option.some (.withContext .every))
    (.every (.contextual predicate))

/-- All elements that leave the chain; collecting declares no stage. -/
def collect
    (pipeline : Pipeline Base ε context source element) :
    Sealed Base ε context source element (.list element) :=
  pipeline.close none .collect

/-! ## Stages and terminals as data -/

/-- Declare a stage that is given as data. -/
def extend
    (pipeline : Pipeline Base ε context source element) :
    Stage Base ε context element after →
      Pipeline Base ε context source after
  | .filter (.plain predicate) => pipeline.filter predicate
  | .filter (.contextual predicate) => pipeline.filterWith predicate
  | .map (.plain mapper) => pipeline.map mapper
  | .map (.contextual mapper) => pipeline.mapWith mapper
  | .forEach (.plain effect) => pipeline.forEach effect
  | .forEach (.contextual effect) => pipeline.forEachWith effect

/-- Seal with a terminal that is given as data. -/
def endWith
    (pipeline : Pipeline Base ε context source element) :
    Terminal Base ε context element output →
      Sealed Base ε context source element output
  | .collect => pipeline.collect
  | .reduce (.plain reducer) seed => pipeline.reduce reducer seed
  | .reduce (.contextual reducer) seed => pipeline.reduceWith reducer seed
  | .join separator display => pipeline.joinBy separator display
  | .find (.plain predicate) => pipeline.find predicate
  | .find (.contextual predicate) => pipeline.findWith predicate
  | .findIndex (.plain predicate) => pipeline.findIndex predicate
  | .findIndex (.contextual predicate) => pipeline.findIndexWith predicate
  | .some (.plain predicate) => pipeline.some predicate
  | .some (.contextual predicate) => pipeline.someWith predicate
  | .every (.plain predicate) => pipeline.every predicate
  | .every (.contextual predicate) => pipeline.everyWith predicate

end Pipeline

end OnePass
