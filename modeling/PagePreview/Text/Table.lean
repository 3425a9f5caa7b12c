import PagePreview.Number.Reading
import PagePreview.Text.Letter
import PagePreview.Text.Blank

/-! Tables of code points that are written as text: entries between blanks, their numbers in base
sixteen. -/

namespace PagePreview.Text

def tableEntries (table : String) : List (List Char) :=
  let (done, last) := table.foldl (fun (done, word) c =>
    if !isBlank c then (done, c :: word)
    else if word.isEmpty then (done, word)
    else (word.reverse :: done, [])) (([] : List (List Char)), ([] : List Char))
  ((if last.isEmpty then done else last.reverse :: done).reverse)

def readRange (s : List Char) : Nat × Nat :=
  let first := s.takeWhile (· != '-')
  let last := (s.drop first.length).drop 1
  let n := Number.ofDigits 16 first
  (n, if last.isEmpty then n else Number.ofDigits 16 last)

def readRanges (table : String) : Array (Nat × Nat) := ((tableEntries table).map readRange).toArray

/-- The entry of a sorted table on which a comparison comes out even, looked for between two
places. -/
def seekFrom {α : Type} (entries : Array α) (compare : α → Ordering) : Nat → Nat → Nat → Option α
  | 0, _, _ => none
  | fuel + 1, low, high =>
    if h : low < high ∧ (low + high) / 2 < entries.size then
      let e := entries[(low + high) / 2]
      match compare e with
      | .lt => seekFrom entries compare fuel low ((low + high) / 2)
      | .gt => seekFrom entries compare fuel ((low + high) / 2 + 1) high
      | .eq => some e
    else none

def seek? {α : Type} (entries : Array α) (compare : α → Ordering) : Option α :=
  seekFrom entries compare (entries.size + 1) 0 entries.size

def sideOf (n : Nat) (range : Nat × Nat) : Ordering :=
  if n < range.1 then .lt else if range.2 < n then .gt else .eq

end PagePreview.Text
