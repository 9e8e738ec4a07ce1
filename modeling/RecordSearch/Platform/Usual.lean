import RecordSearch.Encoding
import RecordSearch.Yaml.Flow

namespace RecordSearch.Platform

/-!
# A usual platform

A platform on which settings can be read by running the definitions: with the encodings of a usual
interpreter, and the users of a system without further accounts. Of documents it reads those whose
lists and mappings are written in brackets, as a writer of JSON texts does; others, and an empty
one, are refused. Nothing that is proved about settings depends on it.
-/

/-- The home directories of users. -/
def usualHomes : List (String × String) := [
  ("", "/root"), ("root", "/root"), ("daemon", "/usr/sbin"), ("bin", "/bin"), ("sys", "/dev"),
  ("sync", "/bin"), ("games", "/usr/games"), ("man", "/var/cache/man"), ("lp", "/var/spool/lpd"),
  ("mail", "/var/mail"), ("news", "/var/spool/news"), ("uucp", "/var/spool/uucp"),
  ("proxy", "/bin"), ("www-data", "/var/www"), ("backup", "/var/backups"), ("list", "/var/list"),
  ("irc", "/run/ircd"), ("_apt", "/nonexistent"), ("nobody", "/nonexistent")]

/-- A usual platform. -/
@[reducible] def usual : Platform where
  levels := usualLevels
  levels_gt := usualLevels_gt
  codec := Encoding.codec
  readDocument name text := (Yaml.read text).mapError fun problem =>
    .unreadableFile problem.className (problem.message name)
  home? user := usualHomes.lookup user

end RecordSearch.Platform
