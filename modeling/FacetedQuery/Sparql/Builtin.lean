/-!
# Functions of SPARQL

The functions that every endpoint has, with the numbers of arguments that they take, and the
aggregates.
-/

namespace FacetedQuery.Sparql

/-- How many arguments a function takes. -/
inductive Arity where
  | between (least most : Nat)
  | any
deriving DecidableEq

def Arity.allows : Arity → Nat → Bool
  | .between least most, count => least ≤ count && count ≤ most
  | .any, _ => true

/-- The functions without arguments. -/
def constantFunctions : List String :=
  ["RAND", "NOW", "UUID", "STRUUID"]

/-- The functions of one argument. -/
def unaryFunctions : List String :=
  ["STR", "LANG", "DATATYPE", "IRI", "URI", "ABS", "CEIL", "FLOOR", "ROUND", "STRLEN", "UCASE",
    "LCASE", "ENCODE_FOR_URI", "YEAR", "MONTH", "DAY", "HOURS", "MINUTES", "SECONDS", "TIMEZONE",
    "TZ", "MD5", "SHA1", "SHA256", "SHA384", "SHA512", "ISIRI", "ISURI", "ISBLANK", "ISLITERAL",
    "ISNUMERIC"]

/-- The functions of two arguments. -/
def binaryFunctions : List String :=
  ["LANGMATCHES", "CONTAINS", "STRSTARTS", "STRENDS", "STRBEFORE", "STRAFTER", "STRLANG", "STRDT",
    "SAMETERM"]

/-- The arity of a function by its name in capital letters. -/
def arity? (name : String) : Option Arity :=
  if unaryFunctions.contains name then some (.between 1 1)
  else if binaryFunctions.contains name then some (.between 2 2)
  else if constantFunctions.contains name then some (.between 0 0)
  else if name = "BNODE" then some (.between 0 1)
  else if name = "SUBSTR" || name = "REGEX" then some (.between 2 3)
  else if name = "IF" then some (.between 3 3)
  else if name = "REPLACE" then some (.between 3 4)
  else if name = "CONCAT" || name = "COALESCE" then some .any
  else none

/-- The aggregates of one expression. -/
def isAggregateName (name : String) : Bool :=
  ["COUNT", "SUM", "MIN", "MAX", "AVG", "SAMPLE", "GROUP_CONCAT"].contains name

end FacetedQuery.Sparql
