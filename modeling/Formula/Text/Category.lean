-- SUMMARY: General categories and scripts of characters, found in sorted tables of runs.
import Formula.Text.CategoryTable
import Formula.Text.ScriptTable

/-! # Categories and scripts

Both tables list runs of code points in order, each with a number. The number for a code point is
that of the last run that does not begin after it. -/

namespace Formula

/-- The index in `[low, high)` of the last entry whose quotient by `unit` is at most `key`,
    provided the entry at `low` is one. -/
def lastRun (runs : Array Nat) (unit key low high : Nat) : Nat :=
  if h : low + 1 < high then
    let middle := (low + high) / 2
    if runs.getD middle 0 / unit ≤ key then lastRun runs unit key middle high
    else lastRun runs unit key low middle
  else low
termination_by high - low
decreasing_by all_goals omega

/-- The entry of the run that a code point lies in. -/
def runEntry (runs : Array Nat) (unit key : Nat) : Nat :=
  runs.getD (lastRun runs unit key 0 runs.size) 0

/-- The general category of a character. -/
inductive Category where
  | lu | ll | lt | lm | lo
  | mn | mc | me
  | nd | nl | no
  | pc | pd | ps | pe | pi | pf | po
  | sm | sc | sk | so
  | zs | zl | zp
  | cc | cf | cs | co | cn
deriving DecidableEq

namespace Category

/-- The categories in the order of their numbers. -/
def all : Array Category := #[
  lu, ll, lt, lm, lo, mn, mc, me, nd, nl, no, pc, pd, ps, pe, pi, pf, po, sm, sc, sk, so,
  zs, zl, zp, cc, cf, cs, co, cn]

/-- The short name, in lower case. -/
def shortName : Category → String
  | lu => "lu" | ll => "ll" | lt => "lt" | lm => "lm" | lo => "lo"
  | mn => "mn" | mc => "mc" | me => "me"
  | nd => "nd" | nl => "nl" | no => "no"
  | pc => "pc" | pd => "pd" | ps => "ps" | pe => "pe" | pi => "pi" | pf => "pf" | po => "po"
  | sm => "sm" | sc => "sc" | sk => "sk" | so => "so"
  | zs => "zs" | zl => "zl" | zp => "zp"
  | cc => "cc" | cf => "cf" | cs => "cs" | co => "co" | cn => "cn"

/-- The general category of a code point. -/
def ofCode (code : Nat) : Category :=
  let entry := runEntry runs 32 code
  let number := entry % 32
  if number = 30 then if (code - entry / 32) % 2 = 0 then lu else ll
  else all.getD number cn

end Category

namespace Script

/-- The number of the script of a code point. -/
def ofCode (code : Nat) : Nat := runEntry runs 256 code % 256

end Script
end Formula
