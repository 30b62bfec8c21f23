import LineShell.FileSystem.Basic
/-!
The tree of a system before anybody works on it: what programs expect to find anywhere.
-/

namespace LineShell

namespace FileSystem

def standardDirectories : List Location :=
  [ ["boot"], ["dev"], ["etc"], ["etc", "profile.d"], ["home"], ["lost+found"], ["media"], ["mnt"],
    ["opt"], ["proc"], ["proc", "self"], ["proc", "self", "fd"], ["root"], ["run"], ["srv"], ["sys"],
    ["tmp"], ["usr"], ["usr", "bin"], ["usr", "games"], ["usr", "lib"], ["usr", "lib64"],
    ["usr", "local"], ["usr", "local", "bin"], ["usr", "local", "games"], ["usr", "local", "lib"],
    ["usr", "local", "sbin"], ["usr", "sbin"], ["usr", "share"], ["var"], ["var", "lib"],
    ["var", "log"], ["var", "tmp"] ]

def textFile (mode : Nat) (lines : List String) : Node :=
  .file mode (utf8 (String.join (lines.map (· ++ "\n"))))

def loginProfile : List String :=
  [ "# /etc/profile: system-wide .profile file for the Bourne shell (sh(1))",
    "# and Bourne compatible shells (bash(1), ksh(1), ash(1), ...).",
    "",
    "if [ \"$(id -u)\" -eq 0 ]; then",
    "  PATH=\"/usr/local/sbin:/usr/local/bin:/usr/sbin:/usr/bin:/sbin:/bin\"",
    "else",
    "  PATH=\"/usr/local/bin:/usr/bin:/bin:/usr/local/games:/usr/games\"",
    "fi",
    "export PATH",
    "",
    "if [ \"$\x7bPS1-\x7d\" ]; then",
    "  if [ \"$\x7bBASH-\x7d\" ] && [ \"$BASH\" != \"/bin/sh\" ]; then",
    "    # The file bash.bashrc already sets the default PS1.",
    "    # PS1='\\h:\\w\\$ '",
    "    if [ -f /etc/bash.bashrc ]; then",
    "      . /etc/bash.bashrc",
    "    fi",
    "  else",
    "    if [ \"$(id -u)\" -eq 0 ]; then",
    "      PS1='# '",
    "    else",
    "      PS1='$ '",
    "    fi",
    "  fi",
    "fi",
    "",
    "if [ -d /etc/profile.d ]; then",
    "  for i in /etc/profile.d/*.sh; do",
    "    if [ -r $i ]; then",
    "      . $i",
    "    fi",
    "  done",
    "  unset i",
    "fi" ]

/-- The program that tells who the user is. There is one user. -/
def identityProgram : List String :=
  [ "#!/bin/sh",
    "case $1 in",
    "-u | -g | -G) echo 0 ;;",
    "-un | -gn | -Gn) echo root ;;",
    "*) echo 'uid=0(root) gid=0(root) groups=0(root)' ;;",
    "esac" ]

def standardEntries : List (Location × Node) :=
  [ (["bin"], .link ⟨"usr/bin"⟩),
    (["dev", "fd"], .link ⟨"/proc/self/fd"⟩),
    (["dev", "full"], .device .full),
    (["dev", "null"], .device .null),
    (["dev", "stderr"], .link ⟨"/proc/self/fd/2"⟩),
    (["dev", "stdin"], .link ⟨"/proc/self/fd/0"⟩),
    (["dev", "stdout"], .link ⟨"/proc/self/fd/1"⟩),
    (["dev", "tty"], .device .terminal),
    (["dev", "zero"], .device .zero),
    (["etc", "profile"], textFile 0o644 loginProfile),
    (["lib"], .link ⟨"usr/lib"⟩),
    (["lib64"], .link ⟨"usr/lib64"⟩),
    (["sbin"], .link ⟨"usr/sbin"⟩),
    (["usr", "bin", "dash"], .interpreter),
    (["usr", "bin", "id"], textFile 0o755 identityProgram),
    (["usr", "bin", "sh"], .link ⟨"dash"⟩) ]

def standard : FileSystem where
  entries := standardDirectories.map (·, .directory) ++ standardEntries

/-- Whether what stands at a place is older than all that anybody puts into the tree. The directory for
passing files is not, since it changes with each of them. -/
def isOld (location : Location) : Bool :=
  location ≠ ["tmp"] && (standard.node? location).isSome

end FileSystem

end LineShell
