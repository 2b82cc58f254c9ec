import SqlCompose.Dialect

/-!
# Paging

The clause that skips the first rows of an answer and bounds their number. Zero counts as unset.
Where there is an offset without a limit, each dialect has its own way to ask for all further rows.
-/

namespace SqlCompose.Dialect

/-- Skips rows and takes all others. -/
def offsetOnly (d : Dialect) (offset : UInt64) : String :=
  match d with
  | .mySql => "LIMIT " ++ toString offset.toNat ++ ", 18446744073709551615"
  | .postgreSql => "LIMIT ALL OFFSET " ++ toString offset.toNat
  | .sqlite => "LIMIT 9223372036854775807 OFFSET " ++ toString offset.toNat

/-- The paging clause; it is empty where neither number is set. -/
def limitOffset (d : Dialect) (limit offset : Option UInt64) : String :=
  match limit.filter (· != 0), offset.filter (· != 0) with
  | none, none => ""
  | some limit, none => "LIMIT " ++ toString limit.toNat
  | some limit, some offset =>
    "LIMIT " ++ toString limit.toNat ++ " OFFSET " ++ toString offset.toNat
  | none, some offset => d.offsetOnly offset

end SqlCompose.Dialect
