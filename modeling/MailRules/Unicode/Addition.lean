/-!
# Addition — what version 17 of the character set adds

The other tables are those of version 16.  What can be shown as it is, and what may stand in a name, goes
by version 17, which gives a meaning to characters that had none before.  Run lengths as in the other
tables.
-/

namespace MailRules
namespace Unicode

def addedAlphabetic : String := "
    2191 1 972 1 127 1 39665 2 2 1 1 1 28 1 24910 26 1387 3 50 2 3172 8 584 44 20676 25 2 25 286 5
    6145 8 1289 22 97 115 22733 31 1 22 8 2 53306 6 5986 12 21762 4298"

def addedNumeric : String := "
    73184 10 21002 3"

/-- The characters that can be shown, which leaves out marks that only extend the one before them. -/
def addedVisible : String := "
    2191 1 972 1 127 1 5092 1 2772 1 31799 2 2 1 1 1 28 1 21457 16 445 2 54 7 2929 26 1387 3 8 9
    3208 1 3 1 1 1 584 44 4 10 20662 25 2 25 286 5 6145 8 1289 22 97 115 16135 3 445 23 15 17 6095
    31 1 3 1 2 1 7 2 5 9 2 4056 1 158 4 341 9 379 4 50 1 3 1 57 1 4 1 28 1 4 1 266 1 47935 6 5986 12
    21762 4298"

end Unicode
end MailRules
