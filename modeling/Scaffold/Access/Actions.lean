import Scaffold.Template.Basic

/-!
# The actions module

The module through which the records of a collection are read and written. Each action gives a result
that says whether it went well.
-/

namespace Scaffold.ActionsModule

open Template

/-! ## The head -/

/-- What the module is for and what it imports. -/
def imports : Template := sequence [
  row [text "// Data access for the '", value ["names", "canonical"], text "' collection."],
  when (.path ["field_summary"]) [
    row [text "// Fields: ", value ["field_summary"]]],
  lines [
    "import \x7b",
    "  addDoc,",
    "  collection,",
    "  deleteDoc,",
    "  doc,",
    "  getCountFromServer,",
    "  getDoc,",
    "  getDocs,",
    "  limit,",
    "  query,",
    "  setDoc,",
    "  startAfter,",
    "  updateDoc,",
    "  where,",
    "\x7d from 'firebase/firestore';",
    "import \x7b db \x7d from '@/firebase';",
    "import \x7b",
    "  ok,",
    "  fail,",
    "  buildFilterConstraints,",
    "  buildSortConstraints,"],
  when (.path ["role_gated"]) [
    lines ["  requireRole,"]],
  when (.path ["activity_logging"]) [
    lines ["  recordActivity,"]],
  lines [
    "  stampCreated,",
    "  stampUpdated,",
    "\x7d from '../collectionSupport.js';"]]

/-- Fixed values, and the form of records. -/
def constants : Template := sequence [
  lines [""],
  row [text "const COLLECTION = ", script ["names", "canonical"], text ";"],
  row [text "export const DEFAULT_PAGE_SIZE = ", value ["page_size"], text ";"],
  row [text "export const DEFAULT_SEARCH_FIELD = ", script ["search_field"], text ";"],
  row [text "const SEARCH_SENTINEL = '", value ["sentinel_escape"], text "';"],
  lines [
    "",
    "function toRecord(snapshot) \x7b",
    "  return \x7b id: snapshot.id, ...snapshot.data() \x7d;",
    "\x7d",
    "",
    "function withoutId(data) \x7b",
    "  const \x7b id: _id, ...fields \x7d = data || \x7b\x7d;",
    "  return fields;",
    "\x7d",
    ""]]

/-- The start of the function that makes the actions. -/
def opening : Template := sequence [
  row [text "export function ", value ["names", "actions_factory"], text "(session = null) \x7b"],
  lines [
    "  const collectionRef = collection(db, COLLECTION);",
    "",
    "  function pageConstraints(filters, sort) \x7b",
    "    return [...buildFilterConstraints(filters), ...buildSortConstraints(sort)];",
    "  \x7d",
    "",
    "  return \x7b"]]

/-! ## Actions -/

/-- Reading pages and single records. -/
def reading : Template := sequence [
  lines [
    "    async fetchInitialPage(options = \x7b\x7d) \x7b",
    "      const filters = options.filters || \x7b\x7d;",
    "      const sort = options.orderBy || null;",
    "      const pageSize = options.pageSize || DEFAULT_PAGE_SIZE;",
    "      try \x7b",
    "        const snapshot = await getDocs(",
    "          query(collectionRef, ...pageConstraints(filters, sort), limit(pageSize)),",
    "        );",
    "        const returned = snapshot.docs.length;",
    "        return ok(\x7b",
    "          items: snapshot.docs.map(toRecord),",
    "          cursor: returned > 0 ? snapshot.docs[returned - 1] : null,"],
  row [text "          hasMore: ", value ["has_more"], text ","],
  lines [
    "          filters,",
    "          orderBy: sort,",
    "          pageSize,",
    "        \x7d);",
    "      \x7d catch (error) \x7b",
    "        return fail(error);",
    "      \x7d",
    "    \x7d,",
    "",
    "    async fetchNextPage(page) \x7b",
    "      if (!page || !page.cursor || !page.hasMore) return ok(page || null);",
    "      const pageSize = page.pageSize || DEFAULT_PAGE_SIZE;",
    "      try \x7b",
    "        const snapshot = await getDocs(",
    "          query(",
    "            collectionRef,",
    "            ...pageConstraints(page.filters, page.orderBy),",
    "            startAfter(page.cursor),",
    "            limit(pageSize),",
    "          ),",
    "        );",
    "        const returned = snapshot.docs.length;",
    "        return ok(\x7b",
    "          ...page,",
    "          items: [...page.items, ...snapshot.docs.map(toRecord)],",
    "          cursor: returned > 0 ? snapshot.docs[returned - 1] : null,"],
  row [text "          hasMore: ", value ["has_more"], text ","],
  lines [
    "        \x7d);",
    "      \x7d catch (error) \x7b",
    "        return fail(error);",
    "      \x7d",
    "    \x7d,",
    "",
    "    async get(id) \x7b",
    "      try \x7b",
    "        const snapshot = await getDoc(doc(db, COLLECTION, id));",
    "        return ok(snapshot.exists() ? toRecord(snapshot) : null);",
    "      \x7d catch (error) \x7b",
    "        return fail(error);",
    "      \x7d",
    "    \x7d,",
    ""]]

/-- Adding a record. -/
def adding : Template := sequence [
  lines [
    "    async add(data, id = null) \x7b",
    "      try \x7b"],
  row [text "        const record = stampCreated(withoutId(data), session",
    when (.path ["identity"]) [text ", \x7b trackActor: true \x7d"], text ");"],
  lines [
    "        let createdId = id;",
    "        if (id) \x7b",
    "          await setDoc(doc(db, COLLECTION, id), record);",
    "        \x7d else \x7b",
    "          const ref = await addDoc(collectionRef, record);",
    "          createdId = ref.id;",
    "        \x7d"],
  when (.path ["activity_logging"]) [
    lines ["        await recordActivity(session, \x7b"],
    row [text "          type: '", value ["names", "constant"], text "_CREATED',"],
    lines [
      "          entityType: COLLECTION,",
      "          entityId: createdId,",
      "        \x7d);"]],
  lines [
    "        return ok(\x7b id: createdId \x7d);",
    "      \x7d catch (error) \x7b",
    "        return fail(error);",
    "      \x7d",
    "    \x7d,",
    ""]]

/-- Changing a record. -/
def changing : Template := sequence [
  lines [
    "    async update(id, data) \x7b",
    "      try \x7b",
    "        await updateDoc(",
    "          doc(db, COLLECTION, id),"],
  row [text "          stampUpdated(withoutId(data), session",
    when (.path ["identity"]) [text ", \x7b trackActor: true \x7d"], text "),"],
  lines ["        );"],
  when (.path ["activity_logging"]) [
    lines ["        await recordActivity(session, \x7b"],
    row [text "          type: '", value ["names", "constant"], text "_UPDATED',"],
    lines [
      "          entityType: COLLECTION,",
      "          entityId: id,",
      "        \x7d);"]],
  lines [
    "        return ok(\x7b id \x7d);",
    "      \x7d catch (error) \x7b",
    "        return fail(error);",
    "      \x7d",
    "    \x7d,",
    ""]]

/-- Deleting a record. -/
def deleting : Template := sequence [
  lines [
    "    async remove(id) \x7b",
    "      try \x7b"],
  when (.path ["role_gated"]) [
    lines ["        requireRole(session, 'admin');"]],
  lines ["        await deleteDoc(doc(db, COLLECTION, id));"],
  when (.path ["activity_logging"]) [
    lines ["        await recordActivity(session, \x7b"],
    row [text "          type: '", value ["names", "constant"], text "_DELETED',"],
    lines [
      "          entityType: COLLECTION,",
      "          entityId: id,",
      "        \x7d);"]],
  lines [
    "        return ok(\x7b id \x7d);",
    "      \x7d catch (error) \x7b",
    "        return fail(error);",
    "      \x7d",
    "    \x7d,",
    ""]]

/-- Searching and counting. -/
def searching : Template := sequence [
  lines [
    "    async search(term, field = DEFAULT_SEARCH_FIELD, filters = \x7b\x7d) \x7b",
    "      const text = term === undefined || term === null ? '' : String(term);",
    "      try \x7b",
    "        const snapshot = await getDocs(",
    "          query(",
    "            collectionRef,",
    "            where(field, '>=', text),",
    "            where(field, '<', text + SEARCH_SENTINEL),",
    "            ...buildFilterConstraints(filters),",
    "          ),",
    "        );",
    "        return ok(\x7b term: text, field, results: snapshot.docs.map(toRecord) \x7d);",
    "      \x7d catch (error) \x7b",
    "        return fail(error);",
    "      \x7d",
    "    \x7d,",
    "",
    "    async count(filters = \x7b\x7d) \x7b",
    "      try \x7b",
    "        const snapshot = await getCountFromServer(",
    "          query(collectionRef, ...buildFilterConstraints(filters)),",
    "        );",
    "        return ok(snapshot.data().count);",
    "      \x7d catch (error) \x7b",
    "        return fail(error);",
    "      \x7d",
    "    \x7d,"]]

/-- Giving and taking roles, where only users with a role may. -/
def roles : Template := sequence [
  when (.path ["role_gated"]) [
    lines [
      "",
      "    async assignRoles(id, roles) \x7b",
      "      try \x7b",
      "        requireRole(session, 'admin');",
      "        const ref = doc(db, COLLECTION, id);",
      "        const snapshot = await getDoc(ref);",
      "        const current = snapshot.exists() ? snapshot.data().roles || [] : [];",
      "        const wanted = Array.isArray(roles) ? roles : [roles];",
      "        const next = [...new Set([...current, ...wanted])];",
      "        await updateDoc(ref, stampUpdated(\x7b roles: next \x7d, session, \x7b trackActor: true \x7d));",
      "        return ok(\x7b id, roles: next \x7d);",
      "      \x7d catch (error) \x7b",
      "        return fail(error);",
      "      \x7d",
      "    \x7d,",
      "",
      "    async revokeRoles(id, roles) \x7b",
      "      try \x7b",
      "        requireRole(session, 'admin');",
      "        const ref = doc(db, COLLECTION, id);",
      "        const snapshot = await getDoc(ref);",
      "        const current = snapshot.exists() ? snapshot.data().roles || [] : [];",
      "        const unwanted = Array.isArray(roles) ? roles : [roles];",
      "        const next = current.filter((role) => !unwanted.includes(role));",
      "        await updateDoc(ref, stampUpdated(\x7b roles: next \x7d, session, \x7b trackActor: true \x7d));",
      "        return ok(\x7b id, roles: next \x7d);",
      "      \x7d catch (error) \x7b",
      "        return fail(error);",
      "      \x7d",
      "    \x7d,"]]]

/-- The end of the function that makes the actions. -/
def closing : Template := sequence [
  lines [
    "  \x7d;",
    "\x7d"]]

/-! ## The module -/

/-- The text of the module. -/
def template : Template :=
  sequence [imports, constants, opening, reading, adding, changing, deleting, searching, roles,
    closing]

end Scaffold.ActionsModule
