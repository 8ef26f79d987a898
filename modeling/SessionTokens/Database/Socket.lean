import SessionTokens.Text.Split
import SessionTokens.Text.Utf8

/-! # Reaching a local socket

A local socket has a path, or a name that begins with a null character and stands in no directory.
Where no database is running, nobody answers: what a path leads to is no socket, if it leads to
anything.
-/

namespace SessionTokens

open Text

/-- Why a socket is not reached. -/
inductive SocketError where
  | missing
  | notDirectory
  | withoutName
  | nullInPath
  | longPath
  | longName
  /-- There is something, but nobody who answers. -/
  | refused
  deriving DecidableEq, Repr

/-- The wording of a socket error. -/
def SocketError.message : SocketError → String
  | .missing => "No such file or directory (os error 2)"
  | .notDirectory => "Not a directory (os error 20)"
  | .withoutName => "Invalid argument (os error 22)"
  | .nullInPath => "paths must not contain interior null bytes"
  | .longPath => "path must be shorter than SUN_LEN"
  | .longName => "abstract socket name must be shorter than SUN_LEN"
  | .refused => "Connection refused (os error 111)"

/-- How many bytes an address has room for. -/
def addressRoom : Nat := 108

/-- Files that every system has. -/
def standardFiles : List (List String) :=
  ["null", "zero", "full", "random", "urandom", "tty"].map (["dev", ·]) ++
    ["passwd", "group", "hosts", "hostname", "resolv.conf"].map (["etc", ·])

/-- Directories that every system has, beside those of its files. -/
def standardDirectories : List (List String) :=
  [[]] ++ ["bin", "dev", "etc", "home", "lib", "mnt", "opt", "proc", "root", "run", "sbin", "srv",
    "sys", "tmp", "usr", "var"].map ([·]) ++
    ["bin", "lib", "local", "sbin", "share"].map (["usr", ·]) ++
    ["cache", "lib", "log", "run", "tmp"].map (["var", ·])

/-- What the beginning of a path leads to. -/
inductive Spot where
  /-- A directory that every system has. -/
  | directory (path : List String)
  /-- A directory of which nothing is known. -/
  | somewhere
  | file
  deriving DecidableEq, Repr

/-- Where a further name of a path leads to. -/
def Spot.step (name : String) : Spot → Except SocketError Spot
  | .file => .error .notDirectory
  | .somewhere => if ["", ".", ".."].contains name then .ok .somewhere else .error .missing
  | .directory path =>
      match name with
      | "" | "." => .ok (.directory path)
      | ".." => .ok (.directory path.dropLast)
      | name =>
          let path := path ++ [name]
          if standardFiles.contains path then .ok .file
          else if standardDirectories.contains path then .ok (.directory path)
          else .error .missing

/-- Why the socket of a path is not reached. -/
def pathError (path : List Char) : SocketError :=
  let start : Spot := if path.head? == some '/' then .directory [] else .somewhere
  let names := (splitAll '/' path).map String.ofList
  match names.foldlM (fun spot name => spot.step name) start with
  | .error problem => problem
  | .ok _ => .refused

/-- Why a socket is not reached. -/
def socketError (address : String) : SocketError :=
  match address.toList with
  | [] => .withoutName
  | c :: rest =>
      if c.toNat = 0 then
        if rest.isEmpty then .withoutName
        else if addressRoom ≤ Utf8.size rest then .longName
        else .refused
      else if rest.any (·.toNat == 0) then .nullInPath
      else if addressRoom ≤ Utf8.size (c :: rest) then .longPath
      else pathError (c :: rest)

end SessionTokens
