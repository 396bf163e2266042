import TurnLedger.Store.Failure
import TurnLedger.Store.Stamps
import TurnLedger.Time.Parse

/-!
# A store kept in a database table

The table holds one row per record, in order of insertion. The id is the key: a second row
with the same id is refused. The creation time is held as text with exactly six digits of
fraction (`Instant.microsText`), so finer parts are cut off, and texts compare as byte strings:
for years 0 to 9999 that is time order. The cost is a REAL value, which turns negative zero
into zero.

A query keeps the rows whose project and model equal the trimmed filter values and whose time
text lies in the day's span, compared as text. Listing orders them by time text, newest
first, and by id for equal times, then reads every time back as a strict RFC 3339 text; a year
written with a sign cannot be read back and fails the whole query.

A summary counts the rows, adds tokens and durations as checked 64-bit integers (a sum that
leaves the range fails the query), adds costs with compensation (`Compensated`: the rounding
error of each step is gathered beside the sum and added at the end; no value counts as zero),
and counts rows per non-empty status. The sums take the rows in the order the lookup
gives them: a named project is found through the project index, in order of insertion; else a
day is found through the time index, in order of time text and then of insertion; else the
table is read in order of insertion. Whether a partial sum leaves the range, and the cost's
rounding, depend on that order.
-/

namespace TurnLedger.Store

structure Compensated where
  sum : Float := 0.0
  error : Float := 0.0

def Compensated.add (c : Compensated) (x : Float) : Compensated :=
  let next := c.sum + x
  let lost := if c.sum.abs > x.abs then (c.sum - next) + x else (x - next) + c.sum
  { sum := next, error := c.error + lost }

/-- The total: the sum corrected by the error, or `none` when it is not a number. -/
def Compensated.total (c : Compensated) : Option Float :=
  let t := if c.error.isNaN then c.sum else c.sum + c.error
  if t.isNaN then none else some t

/-- The compensated total of a list of terms, `none` for no terms or no number. -/
def compensatedTotal (xs : List Float) : Option Float :=
  if xs.isEmpty then none else (xs.foldl Compensated.add {}).total

open Activity

structure Row where
  record : Record
  created : String

structure Database where
  rows : List Row := []

def duplicateKeyMessage : String := "UNIQUE constraint failed: activity_feed.id"

def duplicateKey : StoreFault :=
  .database duplicateKeyMessage (engineCause 1555 "A PRIMARY KEY constraint failed")

def sumOverflowMessage : String := "integer overflow"

def sumOverflow : StoreFault :=
  .database sumOverflowMessage (engineCause 1 "SQL error or missing database")

def storedCost (x : Float) : Float := if x == 0.0 then 0.0 else x

def Database.insert (d : Database) (r : Record) (st : Stamps) :
    Except StoreFault (Record × Database) × Stamps :=
  let (r, st) := st.complete r
  let created := (r.createdAt.map Time.Instant.microsText).getD ""
  if d.rows.any (·.record.id == r.id) then (.error duplicateKey, st)
  else
    let row : Row := ⟨{ r with costEstimate := storedCost r.costEstimate }, created⟩
    (.ok (r, { rows := d.rows ++ [row] }), st)

def Database.matching (d : Database) (f : Filters) : Except StoreFault (List Row) := do
  let span ← daySpan f
  let project := filled? f.projectTag
  let model := filled? f.model
  let texts := span.map fun (a, b) => (a.microsText, b.microsText)
  return d.rows.filter fun row =>
    project.all (· == row.record.projectTag) && model.all (· == row.record.model) &&
      texts.all fun (lo, hi) => lo ≤ row.created && row.created < hi

/-- Whether row `a` is listed no later than row `b`: newer time text first, then smaller id. -/
def listedBefore (a b : Row) : Bool :=
  a.created > b.created || (a.created == b.created && a.record.id ≤ b.record.id)

def conversionMessage (failure : Time.ParseFailure) : String :=
  "Conversion error from type Text at index: 16, " ++ failure.message

def Row.read (row : Row) : Except StoreFault Record :=
  match Time.Instant.parseStrict row.created with
  | .ok t => .ok { row.record with createdAt := some t }
  | .error e => .error (.database (conversionMessage e) e.message)

def Database.list (d : Database) (f : Filters) : Except StoreFault (List Record) := do
  ((← d.matching f).mergeSort listedBefore).mapM Row.read

def checkedSum (xs : List Int) : Except StoreFault Int :=
  match xs.foldlM checkedAdd 0 with
  | some s => .ok s
  | none => .error sumOverflow

def statusCounts (rows : List Row) : List (String × Int) :=
  rows.foldl (fun acc row =>
    if row.record.status.isEmpty then acc
    else ((bumpStatus row.record.status acc).getD acc)) []

/-- The matching rows in the order a summary reads them: by time text, ties in order of
insertion, when the query names a day and no project; else in order of insertion. -/
def scanOrder (f : Filters) (rows : List Row) : List Row :=
  if (filled? f.projectTag).isNone && (filled? f.date).isSome then
    rows.mergeSort fun a b => a.created ≤ b.created
  else rows

def Database.summarize (d : Database) (f : Filters) : Except StoreFault Summary := do
  let rows ← d.matching f
  let scanned := scanOrder f rows
  let tokensIn ← checkedSum (scanned.map (·.record.tokensIn))
  let tokensOut ← checkedSum (scanned.map (·.record.tokensOut))
  let durationMs ← checkedSum (scanned.map (·.record.durationMs))
  let cost := (compensatedTotal (scanned.map (·.record.costEstimate))).getD 0.0
  return { count := rows.length, tokensIn, tokensOut, cost, durationMs,
           byStatus := statusCounts rows }

def Database.health (d : Database) : Health :=
  { reachable := true, backend := "sqlite", recordCount := some d.rows.length }

end TurnLedger.Store
