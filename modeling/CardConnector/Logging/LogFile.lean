import CardConnector.Decimal.Digits
import CardConnector.Files.Tree
import CardConnector.Logging.Settings

/-! # Log files

The file that log lines go to. Its name is the last part of a path, to which rotation adds
the hour or day in which it was begun; missing directories above it are made.
-/

namespace CardConnector

open Decimal (padded)

structure Moment where
  year : Nat
  month : Nat
  day : Nat
  hour : Nat
deriving DecidableEq, Repr

def Moment.dayChars (moment : Moment) : List Char :=
  padded 4 moment.year ++ '-' :: padded 2 moment.month ++ '-' :: padded 2 moment.day

/-- The ending that rotation gives to names of files begun at a moment. -/
def LogRotation.ending (moment : Moment) : LogRotation → String
  | never => ""
  | hourly => String.ofList ('.' :: moment.dayChars ++ '-' :: padded 2 moment.hour)
  | daily => String.ofList ('.' :: moment.dayChars)

/-- A log file, perhaps one of a series. -/
structure LogFile where
  path : String
  rotation : LogRotation
deriving DecidableEq, Repr

namespace LogFile

/-- The name of a log file whose path names none. -/
def defaultName : String := "ecard.log"

/-- The directory of the file, and its name before rotation. A path that ends in two dots
names no file. -/
def location (file : LogFile) : String × String :=
  match (FileTree.steps file.path).getLast? with
  | none => ("", defaultName)
  | some ".." => (FileTree.parentPath file.path, defaultName)
  | some name => (FileTree.parentPath file.path, name)

/-- The path of the file that is begun at a moment. -/
def pathAt (file : LogFile) (moment : Moment) : String :=
  FileTree.join file.location.1 (file.location.2 ++ file.rotation.ending moment)

/-- The files and directories after the file was opened for writing, if it can be. -/
def open? (file : LogFile) (moment : Moment) (files : FileTree) : Option FileTree :=
  match files.makePath? file.location.1 with
  | some (files, _) => (files.resolve (file.pathAt moment)).bind files.openFile?
  | none => none

end LogFile

end CardConnector
