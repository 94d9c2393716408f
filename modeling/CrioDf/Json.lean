import CrioDf.Dict

/-!
# CrioDf.Json

The values `json.load` returns, and the part of Python's object model that
`get_compressed_sizes` uses on them:

* `JsonValue.isFalsy` — `not v`;
* `JsonValue.get` — `v.get(key, default)`, which only a dict has;
* `JsonValue.iter` — `for x in v`, over a list, a dict's keys or a string's characters;
* `JsonValue.asInt` — the operand of `image_compressed += v`;
* `JsonValue.toKey` — `v` as a dict key, with Python's `True == 1` and `False == 0`.

Each returns `Except PyError`: a value without `.get` raises `AttributeError`; one that is
not iterable, not a number, or not hashable raises `TypeError`. JSON numbers are modelled as
integers: a fractional number behaves as an integer for each of these checks.

`ManifestFile` is what the script finds at `<IMAGES_DIR>/<image id>/manifest`, and
`loadJsonFile` is `load_json_file`, which turns every read or parse failure into `[]`.
-/

namespace CrioDf

/-- A JSON value, as `json.load` builds it. -/
inductive JsonValue
  | null
  | bool (b : Bool)
  | num (n : Int)
  | str (s : String)
  | arr (items : List JsonValue)
  | obj (fields : List (String × JsonValue))

/-- The exceptions the script can raise on the values it reads: `get_compressed_sizes` on a
manifest, and the verbose report on what it prints. -/
inductive PyError
  | attributeError
  | typeError
  /-- `float(n)` of an `int` beyond the largest double. -/
  | overflowError
  deriving Repr, DecidableEq

/-- A hashable JSON value as a dict key: `None`, an `int` (booleans are `0` and `1`, as in
Python's `==` and `hash`), or a `str`. -/
inductive PyKey
  | none
  | int (n : Int)
  | str (s : String)
  deriving Repr, DecidableEq

namespace JsonValue

/-- `not v`. -/
def isFalsy : JsonValue → Bool
  | null => true
  | bool b => !b
  | num n => n == 0
  | str s => s.isEmpty
  | arr items => items.isEmpty
  | obj fields => fields.isEmpty

/-- The value of the last field named `key`, as `json.load` keeps it. -/
def field? (fields : List (String × JsonValue)) (key : String) : Option JsonValue :=
  (fields.reverse.find? (·.1 = key)).map (·.2)

/-- `v.get(key, default)`. -/
def get (v : JsonValue) (key : String) (default : JsonValue) : Except PyError JsonValue :=
  match v with
  | obj fields => .ok ((field? fields key).getD default)
  | _ => .error .attributeError

/-- `for x in v`: a list gives its items, a dict its keys, a string its characters. -/
def iter : JsonValue → Except PyError (List JsonValue)
  | arr items => .ok items
  | obj fields => .ok ((fields.map (·.1)).eraseDups.map str)
  | str s => .ok (s.data.map fun c => str (String.singleton c))
  | _ => .error .typeError

/-- `total += v` for an `int` total: the integer `v` adds. -/
def asInt : JsonValue → Except PyError Int
  | num n => .ok n
  | bool b => .ok (if b then 1 else 0)
  | _ => .error .typeError

/-- `v` used as a dict key. -/
def toKey : JsonValue → Except PyError PyKey
  | null => .ok .none
  | bool b => .ok (.int (if b then 1 else 0))
  | num n => .ok (.int n)
  | str s => .ok (.str s)
  | _ => .error .typeError

end JsonValue

/-- What the script finds at a manifest path. -/
inductive ManifestFile
  /-- `os.path.exists(manifest_path)` is false. -/
  | missing
  /-- The file exists, but opening or parsing it raises. -/
  | unreadable
  /-- The file holds this JSON value. -/
  | json (v : JsonValue)

/-- `os.path.exists(manifest_path)`. -/
def ManifestFile.pathExists : ManifestFile → Bool
  | .missing => false
  | _ => true

/-- `load_json_file(filepath)`: the parsed value, `[]` when reading or parsing fails. -/
def loadJsonFile : ManifestFile → JsonValue
  | .json v => v
  | _ => .arr []

end CrioDf
